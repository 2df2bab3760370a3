import KeywordBridge.Proofs.Text.Lines
import KeywordBridge.Proofs.Token.Identifiers
import KeywordBridge.Proofs.Token.ProgramLines
import KeywordBridge.Proofs.Token.Recognition
import KeywordBridge.Proofs.Token.Rules

/-!
# The tokens at the code characters of a program

Reading the lines of a program for their quotes gives each character its region, and the
tokens of the program lie in the same regions. In code, every bracket is a token of its
own, whatever stands around it, and so is every name that is a whole run of word
characters: a name starts inside another token only behind a word character.
-/

namespace KeywordBridge

/-! ## Characters with their regions -/

/-- The characters of lines with their regions, where the first line is read from a zone
on. Between two lines only a string between triple quotes goes on. -/
def Zone.classify : Zone → List Text → List (List (Char × Region))
  | _, [] => []
  | zone, line :: rest =>
      let (regions, final) := zone.scan 0 line
      line.zip regions :: classify (ofMode final.nextMode) rest

/-- The characters of a program with their regions, line by line. -/
def Text.classified (program : Text) : List (List (Char × Region)) :=
  Zone.classify .code (program.lines.map Text.dropReturns)

/-- The characters of a text as code. -/
def Text.asCode (text : Text) : List (Char × Region) :=
  text.map fun c => (c, .code)

namespace Lexeme

/-- The characters of a lexeme with the region that it lies in. -/
def classified (lexeme : Lexeme) : List (Char × Region) :=
  lexeme.value.map fun c => (c, lexeme.kind.region)

theorem zip_regions (lexemes : List Lexeme) :
    (source lexemes).zip (lexemes.flatMap regions) = lexemes.flatMap classified := by
  induction lexemes with
  | nil => rfl
  | cons lexeme others ih =>
      have here : lexeme.value.zip lexeme.regions = lexeme.classified := by
        rw [regions, ← List.map_const', ← List.map_prod_left_eq_zip]
        rfl
      have sameLength : lexeme.value.length = lexeme.regions.length :=
        List.length_replicate.symm
      rw [source_cons, List.flatMap_cons, List.flatMap_cons,
        List.zip_append sameLength, here, ih]

theorem map_fst_classified (lexemes : List Lexeme) :
    (lexemes.flatMap classified).map Prod.fst = source lexemes := by
  rw [List.map_flatMap, source]
  simp only [classified, List.map_map, Function.comp_def, List.map_id_fun', id_eq]

/-- A character of code belongs to a lexeme of code. -/
theorem exists_split_of_classified {lexemes : List Lexeme} {front back : List (Char × Region)}
    {c : Char} (cut : lexemes.flatMap classified = front ++ (c, .code) :: back) :
    ∃ (earlier : List Lexeme) (lexeme : Lexeme) (later : List Lexeme) (head tail : Text),
      lexemes = earlier ++ lexeme :: later ∧ lexeme.kind.region = .code ∧
        lexeme.value = head ++ c :: tail ∧
          front = earlier.flatMap classified ++ Text.asCode head := by
  have source := map_fst_classified lexemes
  rw [cut, List.map_append] at source
  obtain ⟨earlier, lexeme, later, head, tail, rfl, frontText, value, nonempty, -⟩ :=
    exists_split_of_source source.symm (List.cons_ne_nil _ _)
  obtain ⟨d, others, rfl⟩ := List.exists_cons_of_ne_nil nonempty
  have length : front.length =
      (earlier.flatMap classified ++ head.map fun c => (c, lexeme.kind.region)).length := by
    rw [← List.length_map (f := Prod.fst), frontText, List.length_append, List.length_append,
      List.length_map, ← map_fst_classified earlier, List.length_map]
  have split : front ++ (c, .code) :: back =
      (earlier.flatMap classified ++ head.map fun c => (c, lexeme.kind.region)) ++
        (d, lexeme.kind.region) ::
          ((others.map fun c => (c, lexeme.kind.region)) ++ later.flatMap classified) := by
    rw [← cut, List.flatMap_append, List.flatMap_cons, classified, value, List.map_append,
      List.map_cons]
    simp only [List.append_assoc, List.cons_append]
  obtain ⟨sameFront, same⟩ := List.append_inj split length
  obtain ⟨rfl, region⟩ := Prod.mk.inj (List.cons.inj same).1
  rw [← region] at sameFront
  exact ⟨earlier, lexeme, later, head, others, rfl, region.symm, value, sameFront⟩

end Lexeme

/-! ## Tokens of code -/

theorem isBracket_eq_false_of_class {p : Char → Bool}
    (outside : ("\x7b\x7d()[]" : Text).any p = false) {c : Char} (member : p c = true) :
    isBracket c = false := by
  rw [Bool.eq_false_iff]
  intro bracket
  rw [List.any_eq_false] at outside
  exact outside c (List.contains_iff_mem.1 bracket) member

/-- A run of a class that holds no bracket, behind a first character that is none. -/
theorem noBracket_run {p : Char → Bool} (outside : ("\x7b\x7d()[]" : Text).any p = false)
    {c : Char} (first : isBracket c = false) (rest : Text) :
    ∀ d ∈ c :: rest.take (Text.countWhile p rest), isBracket d = false := by
  rw [take_countWhile, List.forall_mem_cons]
  exact ⟨first, fun d member =>
    isBracket_eq_false_of_class outside (List.mem_takeWhile_imp member)⟩

/-- A token of code is a single bracket or holds none. -/
theorem bracket_or_none_of_codeToken {words : List Text} {before : Option Char} {c : Char}
    {rest : Text} {step : TokenStep} (token : CodeToken words before c rest step)
    (code : step.kind.region = .code) :
    step.kind = .bracket ∧ step.extra = 0 ∨
      step.kind ≠ .bracket ∧ ∀ d ∈ c :: rest.take step.extra, isBracket d = false := by
  have ofClass {p : Char → Bool} (outside : ("\x7b\x7d()[]" : Text).any p = false)
      (first : p c = true) :
      ∀ d ∈ c :: rest.take (Text.countWhile p rest), isBracket d = false :=
    noBracket_run outside (isBracket_eq_false_of_class outside first) rest
  cases token with
  | keyword _ first _ => exact .inr ⟨TokenKind.noConfusion, ofClass (by decide) first⟩
  | plain _ token =>
      cases token with
      | float extra length =>
          have marks : (".eE-+" : Text).all (isBracket · = false) = true := by decide
          refine .inr ⟨TokenKind.noConfusion, fun d member => ?_⟩
          rcases (isFloat_of_length length).digit_or_mark d member with digit | mark
          · exact isBracket_eq_false_of_class (by decide) digit
          · exact of_decide_eq_true (List.all_eq_true.1 marks d mark)
      | number digit => exact .inr ⟨TokenKind.noConfusion, ofClass (by decide) digit⟩
      | quote quote mark => exact nomatch (openingStep_inString quote rest).1.symm.trans code
      | white separator => exact .inr ⟨TokenKind.noConfusion, ofClass (by decide) separator⟩
      | comment => cases code
      | bracket => exact .inl ⟨rfl, rfl⟩
      | operator operator => exact .inr ⟨TokenKind.noConfusion, ofClass (by decide) operator⟩
      | identifier start =>
          exact .inr ⟨TokenKind.noConfusion,
            ofClass (by decide) (isWordChar_of_startsName start)⟩
      | invalid _ _ _ _ noBracket _ _ =>
          exact .inr ⟨TokenKind.noConfusion, List.forall_mem_singleton.2 noBracket⟩

section

variable {words : List Text} (isWord : ∀ word ∈ words, word.IsWord) {mode : Mode}
  (known : mode ≠ .blanks)

include isWord known

/-- A token that lies in code is read in code. -/
theorem exists_codeStep_of_split {before : Option Char} {text : Text} {earlier : List Lexeme}
    {lexeme : Lexeme} {later : List Lexeme}
    (split : (scanFrom words mode before text).1 = earlier ++ lexeme :: later)
    (code : lexeme.kind.region = .code) :
    ∃ (c : Char) (rest : Text), text = Lexeme.source earlier ++ c :: rest ∧
      let step := codeStep words ((Lexeme.source earlier).getLast?.or before) c rest
      lexeme = ⟨step.kind, c :: rest.take step.extra⟩ := by
  obtain ⟨here, c, rest, knownHere, whole, isLexeme, -⟩ :=
    exists_step_of_split isWord known split
  rw [isLexeme] at code
  cases here with
  | code => exact ⟨c, rest, whole, isLexeme⟩
  | blanks => exact absurd rfl knownHere
  | inLine quote => exact nomatch (inLineStep_inString quote c rest).1.symm.trans code
  | inTriple quote => exact nomatch (inTripleStep_inString quote c rest).1.symm.trans code

/-- A bracket in code is a token of its own. -/
theorem eq_bracket_of_mem_scanFrom {before : Option Char} {text : Text} {lexeme : Lexeme}
    (listed : lexeme ∈ (scanFrom words mode before text).1) (code : lexeme.kind.region = .code)
    {bracket : Char} (isBracket : isBracket bracket = true) (inside : bracket ∈ lexeme.value) :
    lexeme = ⟨.bracket, [bracket]⟩ := by
  obtain ⟨earlier, later, split⟩ := List.append_of_mem listed
  obtain ⟨c, rest, -, isLexeme⟩ := exists_codeStep_of_split isWord known split code
  have token := codeToken_codeStep isWord ((Lexeme.source earlier).getLast?.or before) c rest
  rw [isLexeme] at code inside ⊢
  rcases bracket_or_none_of_codeToken token code with ⟨kind, single⟩ | ⟨-, none⟩
  · rw [single, List.take_zero, List.mem_singleton] at inside
    rw [kind, single, List.take_zero, inside]
  · rw [none bracket inside] at isBracket
    cases isBracket

/-- The bracket tokens of a text are the brackets among its code characters. -/
theorem countP_bracket_eq (before : Option Char) (text : Text) {bracket : Char}
    (isBracket : isBracket bracket = true) :
    (scanFrom words mode before text).1.countP
        (fun lexeme => lexeme.kind == .bracket && lexeme.value == [bracket]) =
      ((scanFrom words mode before text).1.flatMap Lexeme.classified).count
        (bracket, .code) := by
  have alone : ∀ lexeme ∈ (scanFrom words mode before text).1, lexeme.kind.region = .code →
      bracket ∈ lexeme.value → lexeme = ⟨.bracket, [bracket]⟩ :=
    fun lexeme listed code inside =>
      eq_bracket_of_mem_scanFrom isWord known listed code isBracket inside
  generalize (scanFrom words mode before text).1 = lexemes at alone ⊢
  induction lexemes with
  | nil => rfl
  | cons lexeme others ih =>
      rw [List.forall_mem_cons] at alone
      rw [List.flatMap_cons, List.count_append, ← ih alone.2, List.countP_cons, Nat.add_comm]
      congr 1
      by_cases here : lexeme = ⟨.bracket, [bracket]⟩
      · subst here
        simp [Lexeme.classified, TokenKind.region]
      · have absent : (bracket, .code) ∉ lexeme.classified := by
          intro member
          obtain ⟨c, inside, same⟩ := List.mem_map.1 member
          obtain ⟨rfl, code⟩ := Prod.mk.inj same
          exact here (alone.1 code inside)
        have other : ¬ (lexeme.kind == .bracket && lexeme.value == [bracket]) = true := by
          rw [Bool.and_eq_true, beq_iff_eq, beq_iff_eq]
          rintro ⟨kind, value⟩
          exact here (by rw [← kind, ← value])
        rw [if_neg other, List.count_eq_zero_of_not_mem absent]

/-- Inside a token of code, names start only behind word characters. -/
theorem isChain_joined_of_code {before : Option Char} {text : Text} {earlier : List Lexeme}
    {lexeme : Lexeme} {later : List Lexeme}
    (split : (scanFrom words mode before text).1 = earlier ++ lexeme :: later)
    (code : lexeme.kind.region = .code) : lexeme.value.IsChain Joined := by
  obtain ⟨c, rest, -, isLexeme⟩ := exists_codeStep_of_split isWord known split code
  have token := codeToken_codeStep isWord ((Lexeme.source earlier).getLast?.or before) c rest
  rw [isLexeme] at code ⊢
  generalize codeStep words ((Lexeme.source earlier).getLast?.or before) c rest = step
    at token code ⊢
  cases token with
  | keyword _ first _ =>
      apply isChain_joined_of_word
      rw [take_countWhile, List.forall_mem_cons]
      exact ⟨first, fun d member => List.mem_takeWhile_imp member⟩
  | plain _ token => exact isChain_joined_of_plainToken token code

/-- A name in code that is a whole run of word characters and no keyword is a token of its
own. -/
theorem exists_identifier_of_run {text : Text} {front back : List (Char × Region)} {word : Text}
    (cut : (scanFrom words mode none text).1.flatMap Lexeme.classified =
      front ++ (word.asCode ++ back))
    (maximal : Text.IsMaximalRun (front.map Prod.fst) word (back.map Prod.fst))
    (isName : word.IsName) (unlisted : word ∉ words) :
    ∃ earlier later, (scanFrom words mode none text).1 = earlier ++ ⟨.identifier, word⟩ :: later ∧
      front = earlier.flatMap Lexeme.classified := by
  obtain ⟨c, others, rfl, starts, -⟩ := isName.exists_cons
  obtain ⟨earlier, lexeme, later, head, tail, split, code, value, rfl⟩ :=
    Lexeme.exists_split_of_classified cut
  obtain ⟨isWordHere, start, stop⟩ := maximal
  -- The run goes on to neither side, so the token in which it starts starts with it.
  have noHead : head = [] := by
    by_contra nonempty
    obtain ⟨init, last, rfl⟩ := (List.eq_nil_or_concat' head).resolve_left nonempty
    have joined := isChain_joined_of_code isWord known split code
    rw [value, List.append_assoc, List.singleton_append, List.isChain_append_cons_cons] at joined
    have isWordLast := joined.2.1 starts
    rw [List.map_append, Text.asCode, List.map_map, List.map_append, List.map_singleton,
      ← List.append_assoc, List.getLast?_concat] at start
    exact Bool.noConfusion (isWordLast.symm.trans start)
  subst noHead
  obtain ⟨d, rest, whole, isLexeme⟩ := exists_codeStep_of_split isWord known split code
  have behind : d :: rest = (c :: others) ++ back.map Prod.fst := by
    have source := congrArg (List.map Prod.fst) cut
    rw [Lexeme.map_fst_classified, source_scanFrom, whole, List.map_append, List.map_append,
      List.map_append, Lexeme.map_fst_classified, List.append_assoc] at source
    have chars : Text.asCode [] = [] := rfl
    rw [chars, List.map_nil, List.nil_append] at source
    rw [List.append_cancel_left source, Text.asCode, List.map_map, Function.comp_def,
      List.map_id']
  have run : (d :: rest).takeWhile isWordChar = c :: others := by
    rw [behind, Text.takeWhile_append_of_stop isWordHere.2 stop]
  have free : keywordAt? words ((Lexeme.source earlier).getLast?.or none) (d :: rest) = none := by
    rw [keywordAt?_of_isWord isWord, run, if_neg (fun found => unlisted found.2)]
  obtain ⟨rfl, -⟩ := List.cons.inj behind
  rw [List.takeWhile_cons_of_pos (isWordChar_of_startsName starts)] at run
  rw [codeStep, free] at isLexeme
  simp only [plainStep_of_startsName starts, take_countWhile, run] at isLexeme
  refine ⟨earlier, later, ?_, List.append_nil _⟩
  rw [split, isLexeme]

end

/-! ## The lines of a program -/

namespace Table

variable {table : Table} (words : table.HasWordKeywords)

include words

/-- The regions of consecutive lines are those of their tokens. -/
theorem HasWordKeywords.classify_eq {mode : Mode} (start : mode.StartsLine) (number : Nat)
    {lines : List Text}
    (oneLine : ∀ line ∈ lines, '\n' ∉ line.dropReturns) :
    Zone.classify (Zone.ofMode mode) (lines.map Text.dropReturns) =
      (table.readFrom number mode lines).map fun line =>
        line.lexemes.flatMap Lexeme.classified := by
  induction lines generalizing number mode with
  | nil => rfl
  | cons line rest ih =>
      rw [List.forall_mem_cons] at oneLine
      have agrees := words.lineAgrees start oneLine.1
      have behind := ih (words.startsLine_scanLine start oneLine.1) (number + 1) oneLine.2
      have here := Lexeme.zip_regions (table.scanLine mode line.dropReturns).1
      rw [table.source_scanLine, agrees.regions] at here
      rw [readFrom_cons, List.map_cons, List.map_cons, ← behind, agrees.mode, ← here]
      rfl

/-- The characters of a program with the regions of their tokens. -/
theorem HasWordKeywords.classified_eq (program : Text) :
    program.classified =
      (table.read program).map fun line => line.lexemes.flatMap Lexeme.classified :=
  words.classify_eq (.inl rfl) 1 fun _ member => Text.newline_not_mem_dropReturns member

/-- A line of the program with the regions of its characters is read by a scan that starts
in a known mode. -/
theorem HasWordKeywords.exists_of_classified {program : Text} {index : Nat}
    {chars : List (Char × Region)} (isLine : program.classified[index]? = some chars) :
    ∃ mode, mode ≠ .blanks ∧ ∃ text, '\n' ∉ text ∧
      chars = (scanFrom table.surfaces mode none text).1.flatMap Lexeme.classified ∧
      (table.read program)[index]? =
        some ⟨index + 1, text, mode, (scanFrom table.surfaces mode none text).1⟩ := by
  rw [words.classified_eq, List.getElem?_map, Option.map_eq_some_iff] at isLine
  obtain ⟨line, isLine, rfl⟩ := isLine
  have found := isLine
  rw [read, getElem?_readFrom, Option.map_eq_some_iff] at found
  obtain ⟨text, isText, rfl⟩ := found
  refine ⟨_, (words.startsLine_take program index).ne_blanks, text.dropReturns,
    Text.newline_not_mem_dropReturns (List.mem_of_getElem? isText), rfl, ?_⟩
  rw [isLine, Nat.add_comm index]
  rfl

end Table

end KeywordBridge
