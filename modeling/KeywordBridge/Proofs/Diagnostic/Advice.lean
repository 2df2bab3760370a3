import KeywordBridge.Proofs.Diagnostic.ReversedPrograms
import KeywordBridge.Proofs.Token.NameReplacement

/-!
# Following the advice on target keywords

Each report of a target keyword names the surface keyword to use instead. Where no reported
word follows a digit, putting the surface keywords in place of the reported words changes
these tokens of the program and no others. Then nothing of the kind is reported any more,
and the forward translation gives the same program as before, since it takes a surface
keyword for the very word that it replaces.
-/

namespace KeywordBridge

/-! ## Revised programs -/

/-- The lines with the advice of a diagnostic followed: what a reported target keyword
covers is replaced by its surface keyword. -/
def Diagnostic.revise (diagnostic : Diagnostic) (lines : List Text) : List Text :=
  match diagnostic.problem with
  | .targetKeyword surface _ =>
      lines.modify (diagnostic.line - 1) fun line =>
        line.take (diagnostic.column - 1) ++ (surface ++ line.drop (diagnostic.endColumn - 1))
  | _ => lines

namespace Table

variable (table : Table)

/-- The program with all advice on target keywords followed, the last one first, so that
the others keep their columns. -/
def followAdvice (program : Text) : Text :=
  Text.joinLines ((table.validate program).foldr Diagnostic.revise program.lines)

/-- The lexeme that the advice puts in the place of a lexeme. -/
def advise (lexeme : Lexeme) : Lexeme :=
  match table.replacement? lexeme with
  | some surface => ⟨.keyword, surface⟩
  | none => lexeme

/-- The lines with the advice on their lexemes followed, where the first one starts in the
given mode. -/
def adviseLines : Mode → List Text → List Text
  | _, [] => []
  | mode, line :: rest =>
      let (lexemes, next) := table.scanLine mode line.dropReturns
      (Lexeme.source (lexemes.map table.advise) ++ line.returns) :: adviseLines next rest

variable {table}

/-! ## What is advised -/

theorem advise_of_some {lexeme : Lexeme} {surface : Text}
    (found : table.replacement? lexeme = some surface) :
    table.advise lexeme = ⟨.keyword, surface⟩ := by
  rw [advise, found]

theorem advise_of_none {lexeme : Lexeme} (missing : table.replacement? lexeme = none) :
    table.advise lexeme = lexeme := by
  rw [advise, missing]

/-- Nothing more is advised for a lexeme that is already advised. -/
theorem replacement?_advise (lexeme : Lexeme) :
    table.replacement? (table.advise lexeme) = none := by
  cases found : table.replacement? lexeme with
  | none => rw [advise_of_none found, found]
  | some surface => rw [advise_of_some found]; rfl

theorem targetDiagnostics_map_advise (number column : Nat) (lexemes : List Lexeme) :
    table.targetDiagnostics number column (lexemes.map table.advise) = [] := by
  induction lexemes generalizing column with
  | nil => rfl
  | cons lexeme others ih =>
      rw [List.map_cons, targetDiagnostics, ih, targetDiagnostic?, replacement?_advise]
      rfl

/-- What is advised is translated to what it replaces. -/
theorem forwardWord_of_surfaceFor? {word surface : Text}
    (found : table.surfaceFor? word = some surface) :
    surface ∈ table.surfaces ∧ table.forwardWord surface = table.forwardWord word := by
  have isTarget := mem_targets_of_surfaceFor? found
  have back := table.reverseWord_of_mem_targets isTarget
  rw [reverseWord, found, Option.getD_some] at back
  rw [table.forwardWord_of_mem_targets isTarget]
  exact back

/-! ## Following the reports -/

theorem modify_append_cons {α : Type} (above : List α) (item : α) (below : List α)
    (change : α → α) :
    (above ++ item :: below).modify above.length change = above ++ change item :: below := by
  induction above with
  | nil => rfl
  | cons first rest ih => rw [List.cons_append, List.length_cons, List.modify_succ_cons, ih,
      List.cons_append]

/-- Only reports of target keywords give advice. -/
theorem foldr_revise_filter (diagnostics : List Diagnostic) (lines : List Text) :
    (diagnostics.filter Diagnostic.reportsTarget).foldr Diagnostic.revise lines =
      diagnostics.foldr Diagnostic.revise lines := by
  have others (diagnostic : Diagnostic) (lines : List Text) :
      (if diagnostic.reportsTarget then diagnostic.revise lines else lines) =
        diagnostic.revise lines := by
    obtain ⟨line, column, endColumn, problem⟩ := diagnostic
    cases problem <;> rfl
  rw [List.foldr_filter]
  simp only [others]

/-- The report of a lexeme is followed in its place on its line. -/
theorem foldr_revise_lexeme (above below : List Text) (front : Text) (lexeme : Lexeme)
    (back : Text) :
    (table.targetDiagnostic? (1 + above.length) (1 + front.length) lexeme).toList.foldr
        Diagnostic.revise (above ++ (front ++ (lexeme.value ++ back)) :: below) =
      above ++ (front ++ ((table.advise lexeme).value ++ back)) :: below := by
  rw [targetDiagnostic?]
  cases found : table.replacement? lexeme with
  | none =>
      rw [advise_of_none found]
      rfl
  | some surface =>
      rw [advise_of_some found]
      show (above ++ (front ++ (lexeme.value ++ back)) :: below).modify (1 + above.length - 1)
        (fun line => line.take (1 + front.length - 1) ++
          (surface ++ line.drop (1 + front.length + lexeme.value.length - 1))) = _
      have behind : 1 + front.length + lexeme.value.length - 1 =
          (front ++ lexeme.value).length := by
        rw [List.length_append]
        omega
      rw [Nat.add_sub_cancel_left, Nat.add_sub_cancel_left, behind, modify_append_cons,
        List.take_left, ← List.append_assoc front lexeme.value, List.drop_left]

/-- The reports of a line are followed from the right to the left. -/
theorem foldr_revise_lexemes (above below : List Text) (front : Text) (lexemes : List Lexeme)
    (back : Text) :
    (table.targetDiagnostics (1 + above.length) (1 + front.length) lexemes).foldr
        Diagnostic.revise (above ++ (front ++ (Lexeme.source lexemes ++ back)) :: below) =
      above ++ (front ++ (Lexeme.source (lexemes.map table.advise) ++ back)) :: below := by
  induction lexemes generalizing front with
  | nil => rfl
  | cons lexeme others ih =>
      have column : 1 + front.length + lexeme.value.length =
          1 + (front ++ lexeme.value).length := by
        rw [List.length_append, Nat.add_assoc]
      have behind := ih (front ++ lexeme.value)
      rw [List.append_assoc, List.append_assoc] at behind
      rw [targetDiagnostics, List.foldr_append, Lexeme.source_cons, List.append_assoc, column,
        behind, foldr_revise_lexeme, List.map_cons, Lexeme.source_cons, List.append_assoc]

/-- The reports of consecutive lines are followed from the bottom to the top. -/
theorem foldr_revise_lines (above : List Text) (mode : Mode) (lines : List Text) :
    ((table.readFrom (1 + above.length) mode lines).flatMap fun line =>
        table.targetDiagnostics line.number 1 line.lexemes).foldr
        Diagnostic.revise (above ++ lines) =
      above ++ table.adviseLines mode lines := by
  induction lines generalizing above mode with
  | nil => rfl
  | cons line rest ih =>
      have number : 1 + above.length + 1 = 1 + (above ++ [line]).length := by
        rw [List.length_append, List.length_singleton, Nat.add_assoc]
      have behind := ih (above ++ [line]) (table.scanLine mode line.dropReturns).2
      rw [List.append_assoc, List.append_assoc, List.singleton_append,
        List.singleton_append] at behind
      have here := @foldr_revise_lexemes table above
        (table.adviseLines (table.scanLine mode line.dropReturns).2 rest) []
        (table.scanLine mode line.dropReturns).1 line.returns
      rw [table.source_scanLine, Text.dropReturns_append_returns] at here
      rw [readFrom_cons, List.flatMap_cons, List.foldr_append, number, behind]
      exact here

/-! ## One line -/

/-- Every lexeme for which a surface keyword is advised follows no word character. -/
def AdvisesApart (table : Table) (lexemes : List Lexeme) : Prop :=
  ∀ earlier lexeme later, lexemes = earlier ++ lexeme :: later →
    (table.replacement? lexeme).isSome = true →
      Text.isWordSide (Lexeme.source earlier).getLast? = false

/-- A line as it is read after the advice on it was followed. -/
def adviseLine (table : Table) (line : SourceLine) : SourceLine :=
  { line with
    text := Lexeme.source (line.lexemes.map table.advise)
    lexemes := line.lexemes.map table.advise }

section

variable (words : table.HasWordKeywords) (isName : ∀ word ∈ table.surfaces, word.IsName)

include words isName

/-- Following the advice on one lexeme changes no other lexeme of its line, and the
translation of the line stays the same. -/
theorem HasWordKeywords.scanFrom_advise_one {mode : Mode} (known : mode ≠ .blanks) {line : Text}
    (oneLine : '\n' ∉ line) {earlier : List Lexeme} {lexeme : Lexeme} {later : List Lexeme}
    {final : Mode}
    (scanned : scanFrom table.surfaces mode none line = (earlier ++ lexeme :: later, final))
    (apart : (table.replacement? lexeme).isSome = true →
      Text.isWordSide (Lexeme.source earlier).getLast? = false) :
    let advised := Lexeme.source (earlier ++ table.advise lexeme :: later)
    scanFrom table.surfaces mode none advised = (earlier ++ table.advise lexeme :: later, final) ∧
      advised.mapWords table.forwardWord = line.mapWords table.forwardWord := by
  intro advised
  have source := source_of_scanFrom_eq scanned
  cases found : table.replacement? lexeme with
  | none =>
      have same : advised = line := by
        rw [← source, ← advise_of_none found]
      rw [same, scanned, advise_of_none found]
      exact ⟨rfl, rfl⟩
  | some surface =>
      obtain ⟨kind, word⟩ := lexeme
      obtain ⟨rfl, isTarget⟩ := replacement?_eq_some.1 found
      obtain ⟨listed, translated⟩ := forwardWord_of_surfaceFor? isTarget
      have mark : Text.isWordSide (Lexeme.source earlier).getLast? = false := by
        apply apart
        rw [found, Option.isSome_some]
      have split := congrArg Prod.fst scanned
      obtain ⟨isNameWord, stop⟩ := isName_of_identifier words.isWord_of_mem_surfaces known split
      have isAdvised : advised =
          Lexeme.source earlier ++ (surface ++ Lexeme.source later) := by
        rw [← Lexeme.source_cons ⟨.keyword, surface⟩, ← Lexeme.source_append,
          ← advise_of_some found]
      have isLine : Lexeme.source earlier ++ (word ++ Lexeme.source later) = line := by
        rw [← source, Lexeme.source_append, Lexeme.source_cons]
      constructor
      · rw [isAdvised, advise_of_some found]
        apply scanFrom_replace_identifier words.isWord_of_mem_surfaces known oneLine scanned _
          listed (isName surface listed)
        rw [Option.or_none, mark]
      · rw [isAdvised, ← isLine, Text.mapWords_append_of_apart _ (.inl mark),
          Text.mapWords_append_of_apart _ (.inl mark),
          Text.mapWords_append_of_stop _ (isName surface listed).1 stop,
          Text.mapWords_append_of_stop _ isNameWord.1 stop, translated]

/-- The advice is followed from the right to the left, so that each word still has the
lexemes of the program in front of it. -/
theorem HasWordKeywords.scanFrom_advise {mode : Mode} (known : mode ≠ .blanks) {line : Text}
    (oneLine : '\n' ∉ line) {earlier later : List Lexeme} {final : Mode}
    (scanned : scanFrom table.surfaces mode none line = (earlier ++ later, final))
    (apart : table.AdvisesApart (earlier ++ later)) :
    let advised := Lexeme.source (earlier ++ later.map table.advise)
    scanFrom table.surfaces mode none advised = (earlier ++ later.map table.advise, final) ∧
      advised.mapWords table.forwardWord = line.mapWords table.forwardWord := by
  induction later generalizing earlier with
  | nil =>
      rw [List.map_nil, source_of_scanFrom_eq scanned]
      exact ⟨scanned, rfl⟩
  | cons lexeme others ih =>
      have behind := @ih (earlier ++ [lexeme])
      rw [List.append_assoc, List.append_assoc, List.singleton_append,
        List.singleton_append] at behind
      obtain ⟨scannedBehind, sameBehind⟩ := behind scanned apart
      have oneLineBehind :
          '\n' ∉ Lexeme.source (earlier ++ lexeme :: others.map table.advise) := by
        intro inside
        have mapped : '\n' ∈ line.mapWords table.forwardWord := by
          rw [← sameBehind]
          exact Text.mem_mapWords_of_mem (by decide) inside
        exact oneLine (Text.mem_of_mem_mapWords words.isWord_forwardWord (by decide) mapped)
      obtain ⟨scannedHere, same⟩ := words.scanFrom_advise_one isName known oneLineBehind
        scannedBehind (apart earlier lexeme others rfl)
      exact ⟨scannedHere, same.trans sameBehind⟩

variable {mode : Mode} (start : mode.StartsLine)

include start

/-- Following the advice on a line puts surface keywords in the places of its target
keywords. The translation of the line and the mode of the next one stay the same. -/
theorem HasWordKeywords.scanLine_advise {line : Text} (oneLine : '\n' ∉ line.dropReturns)
    (apart : table.AdvisesApart (table.scanLine mode line.dropReturns).1) :
    let scanned := table.scanLine mode line.dropReturns
    let advised := Lexeme.source (scanned.1.map table.advise)
    table.scanLine mode advised = (scanned.1.map table.advise, scanned.2) ∧
      (advised ++ line.returns).dropReturns = advised ∧
      (advised ++ line.returns).mapWords table.forwardWord = line.mapWords table.forwardWord := by
  intro scanned advised
  obtain ⟨rescanned, same⟩ := @scanFrom_advise table words isName mode start.ne_blanks
    line.dropReturns oneLine [] _ _ rfl apart
  have sameLine : (advised ++ line.returns).mapWords table.forwardWord =
      line.mapWords table.forwardWord := by
    calc
      (advised ++ line.returns).mapWords table.forwardWord =
          advised.mapWords table.forwardWord ++ line.returns :=
        Text.mapWords_append_returns _ advised line
      _ = line.dropReturns.mapWords table.forwardWord ++ line.returns := by rw [← same]; rfl
      _ = (line.dropReturns ++ line.returns).mapWords table.forwardWord :=
        (Text.mapWords_append_returns _ line.dropReturns line).symm
      _ = line.mapWords table.forwardWord := by rw [Text.dropReturns_append_returns]
  have sameReturns : (advised ++ line.returns).returns = line.returns := by
    rw [← Text.returns_mapWords words.isWord_forwardWord, sameLine,
      Text.returns_mapWords words.isWord_forwardWord]
  refine ⟨?_, ?_, sameLine⟩
  · rw [scanLine]
    change scanFrom table.surfaces mode none advised = _ at rescanned
    rw [rescanned]
    rfl
  · have whole := Text.dropReturns_append_returns (advised ++ line.returns)
    rw [sameReturns] at whole
    exact List.append_cancel_right whole

/-! ## All lines -/

/-- Following the advice on consecutive lines changes each of them by itself. -/
theorem HasWordKeywords.readFrom_adviseLines (number : Nat) {lines : List Text}
    (oneLine : ∀ line ∈ lines, '\n' ∉ line.dropReturns)
    (apart : ∀ line ∈ table.readFrom number mode lines, table.AdvisesApart line.lexemes) :
    table.readFrom number mode (table.adviseLines mode lines) =
        (table.readFrom number mode lines).map table.adviseLine ∧
      (table.adviseLines mode lines).map (Text.mapWords table.forwardWord) =
        lines.map (Text.mapWords table.forwardWord) := by
  induction lines generalizing number mode with
  | nil => exact ⟨rfl, rfl⟩
  | cons line rest ih =>
      rw [List.forall_mem_cons] at oneLine
      rw [readFrom_cons, List.forall_mem_cons] at apart
      obtain ⟨rescanned, dropped, same⟩ := words.scanLine_advise isName start oneLine.1 apart.1
      have next := words.startsLine_scanLine start oneLine.1
      obtain ⟨readRest, sameRest⟩ := ih next (number + 1) oneLine.2 apart.2
      constructor
      · rw [adviseLines, readFrom_cons, dropped, rescanned, readRest, readFrom_cons, List.map_cons]
        rfl
      · rw [adviseLines, List.map_cons, same, sameRest, List.map_cons]

end

/-! ## The program -/

section

variable (words : table.HasWordKeywords)

include words

/-- Following all advice on a program goes through its lexemes. -/
theorem HasWordKeywords.followAdvice_eq (program : Text) :
    table.followAdvice program = Text.joinLines (table.adviseLines .code program.lines) := by
  rw [followAdvice, ← foldr_revise_filter, words.filter_validate]
  exact congrArg Text.joinLines (foldr_revise_lines [] .code program.lines)

/-- Advice on a lexeme of a program is reported behind the lexemes in front of it. -/
theorem HasWordKeywords.exists_mem_validate_of_replacement? {program : Text} {line : SourceLine}
    (isLine : line ∈ table.read program) {earlier : List Lexeme} {lexeme : Lexeme}
    {later : List Lexeme} (split : line.lexemes = earlier ++ lexeme :: later)
    (advised : (table.replacement? lexeme).isSome = true) :
    ∃ diagnostic ∈ table.validate program, diagnostic.problem.number = 107 ∧
      diagnostic.front program = Lexeme.source earlier := by
  obtain ⟨diagnostic, reports⟩ : ∃ diagnostic, table.targetDiagnostic? line.number
      (1 + (Lexeme.source earlier).length) lexeme = some diagnostic := by
    rw [← Option.isSome_iff_exists, targetDiagnostic?, Option.isSome_map, advised]
  have member := mem_targetDiagnostics.2 ⟨earlier, lexeme, later, split, reports⟩
  obtain ⟨reported, number⟩ := words.mem_validate_iff.2 ⟨line, isLine, member⟩
  obtain ⟨index, text, isText, rfl⟩ := table.exists_of_mem_read isLine
  obtain ⟨isNumber, isColumn, -⟩ := targetDiagnostic?_eq_some reports
  refine ⟨diagnostic, reported, number, ?_⟩
  obtain ⟨here, column, endColumn, problem⟩ := diagnostic
  change here = 1 + index at isNumber
  change column = 1 + (Lexeme.source earlier).length at isColumn
  rw [isNumber, isColumn]
  exact front_eq_source isText split endColumn problem

/-- Where no reported target keyword follows a digit, none continues a word. -/
theorem HasWordKeywords.advisesApart_of_validate {program : Text}
    (apart : ∀ diagnostic ∈ table.validate program, diagnostic.problem.number = 107 →
      diagnostic.isBehindDigit program = false) :
    ∀ line ∈ table.read program, table.AdvisesApart line.lexemes := by
  intro line isLine earlier lexeme later split advised
  obtain ⟨diagnostic, reported, number, isFront⟩ :=
    words.exists_mem_validate_of_replacement? isLine split advised
  have noDigit := apart diagnostic reported number
  by_contra inside
  rw [← isFront, Bool.not_eq_false] at inside
  rw [words.isBehindDigit_of_isWordSide reported number inside] at noDigit
  cases noDigit

/-- Where no reported target keyword follows a digit, following all advice changes the
lexemes that it is about and no others, and the words of the program are translated to the
same words. -/
theorem HasWordKeywords.read_followAdvice (isName : ∀ word ∈ table.surfaces, word.IsName)
    {program : Text}
    (apart : ∀ diagnostic ∈ table.validate program, diagnostic.problem.number = 107 →
      diagnostic.isBehindDigit program = false) :
    table.read (table.followAdvice program) = (table.read program).map table.adviseLine ∧
      (table.followAdvice program).mapWords table.forwardWord =
        program.mapWords table.forwardWord := by
  have oneLine : ∀ line ∈ program.lines, '\n' ∉ line.dropReturns :=
    fun _ => Text.newline_not_mem_dropReturns
  obtain ⟨rereads, sameLines⟩ := words.readFrom_adviseLines isName (.inl rfl) 1 oneLine
    (words.advisesApart_of_validate apart)
  obtain ⟨lines, same⟩ := Text.joinLines_of_map_mapWords words.isWord_forwardWord sameLines
  rw [← words.followAdvice_eq] at lines same
  refine ⟨?_, same⟩
  rw [read, lines, rereads, read]

end

/-- Following all advice on target keywords leaves none of them to report and does not
change the translation of the program, if no reported word follows a decimal digit. -/
theorem forward_followAdvice {program : Text}
    (apart : ∀ diagnostic ∈ default.validate program, diagnostic.problem.number = 107 →
      diagnostic.isBehindDigit program = false) :
    (∀ diagnostic ∈ default.validate (default.followAdvice program),
        diagnostic.problem.number ≠ 107) ∧
      default.forward (default.followAdvice program) = default.forward program := by
  have words := default_hasWordKeywords
  obtain ⟨rereads, same⟩ := words.read_followAdvice default_isName_of_mem_surfaces apart
  refine ⟨fun diagnostic reported number => ?_, words.forward_congr same⟩
  obtain ⟨line, isLine, member⟩ := words.mem_validate_iff.1 ⟨reported, number⟩
  rw [rereads] at isLine
  obtain ⟨original, -, rfl⟩ := List.mem_map.1 isLine
  rw [adviseLine, targetDiagnostics_map_advise] at member
  cases member

/-- A program with several reported words on a line, and others in a string and in a
comment, which stay. -/
theorem forward_followAdvice_quoted :
    let program : Text := "while a and not b:\r\n    print('if', 2) # or\nclass C: pass"
    (∀ diagnostic ∈ default.validate program, diagnostic.problem.number = 107 →
        diagnostic.isBehindDigit program = false) ∧
      default.followAdvice program =
        ("ngexesha a kwaye hayi b:\r\n    print('if', 2) # or\niklasi C: dlula" : Text) ∧
      (∀ diagnostic ∈ default.validate (default.followAdvice program),
        diagnostic.problem.number ≠ 107) ∧
      default.forward (default.followAdvice program) = default.forward program := by
  intro program
  have diagnosed : default.diagnose (default.read program) =
      [⟨1, 1, 6, .targetKeyword "ngexesha" "while"⟩, ⟨1, 9, 12, .targetKeyword "kwaye" "and"⟩,
        ⟨1, 13, 16, .targetKeyword "hayi" "not"⟩, ⟨3, 1, 6, .targetKeyword "iklasi" "class"⟩,
        ⟨3, 10, 14, .targetKeyword "dlula" "pass"⟩] := by
    decide +kernel
  have found : default.validate program = default.diagnose (default.read program) := by
    apply List.mergeSort_of_pairwise
    rw [diagnosed]
    decide
  have apart : ∀ diagnostic ∈ default.validate program, diagnostic.problem.number = 107 →
      diagnostic.isBehindDigit program = false := by
    rw [found, diagnosed]
    decide +kernel
  refine ⟨apart, ?_, forward_followAdvice apart⟩
  rw [followAdvice, found, diagnosed]
  decide +kernel

end Table

end KeywordBridge
