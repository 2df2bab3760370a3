import KeywordBridge.Proofs.Keyword.Lookup
import KeywordBridge.Proofs.Token.Columns
import KeywordBridge.Proofs.Token.KeywordTokens
import KeywordBridge.Translation

/-!
# The translation and the tokens of a line

The translation replaces keywords wherever the text has them, and the tokens tell
keywords from all else. On a line that is read as code from its start on, each
keyword token is a whole run of word characters, each run that is a keyword is such
a token or starts in a string or a comment, and without strings and comments the
translation is that of the keyword tokens one by one.
-/

namespace KeywordBridge

/-- What the lexemes of a line say about a lexeme among them. -/
theorem LineKeywords.at_split {words : List Text} {before : Option Char}
    {earlier : List Lexeme} {lexeme : Lexeme} {later : List Lexeme}
    (found : LineKeywords words before (earlier ++ lexeme :: later)) :
    LexemeKeywords words ((Lexeme.source earlier).getLast?.or before) lexeme
      (Lexeme.source later) := by
  induction earlier generalizing before with
  | nil =>
      cases found with
      | cons first behind => exact first
  | cons other others ih =>
      cases found with
      | cons first behind =>
          have inner := ih behind
          rw [← Option.or_assoc, ← List.getLast?_append] at inner
          exact inner

/-- The image of a lexeme's segments is that of the lexeme. -/
theorem flatMap_render_lexeme (image : Text → Text) (lexeme : Lexeme) :
    (if lexeme.kind = .keyword then [.keyword lexeme.value]
      else lexeme.value.map Segment.kept).flatMap (Segment.render image) =
    if lexeme.kind = .keyword then image lexeme.value else lexeme.value := by
  split
  · exact List.flatMap_singleton _ _
  · rw [List.flatMap_map]
    exact List.flatMap_singleton' lexeme.value

section

variable {words : List Text} (isName : ∀ word ∈ words, word.IsName) {lexemes : List Lexeme}

include isName

/-- A keyword among the lexemes of a line is a whole run of word characters. -/
theorem LineKeywords.isMaximalRun {earlier later : List Lexeme} {lexeme : Lexeme}
    (found : LineKeywords words none (earlier ++ lexeme :: later))
    (kind : lexeme.kind = .keyword) :
    lexeme.value ∈ words ∧
      Text.IsMaximalRun (Lexeme.source earlier) lexeme.value (Lexeme.source later) := by
  have here := found.at_split
  rw [Option.or_none] at here
  cases here with
  | keyword _ listed start stop => exact ⟨listed, isWord_of_isName isName _ listed, start, stop⟩
  | free other _ _ => exact absurd kind other
  | apart outside =>
      rw [kind] at outside
      exact absurd rfl outside

/-- A whole run of word characters that is a keyword is a lexeme of its own, or the
lexeme in which it starts belongs to a string or a comment. -/
theorem LineKeywords.lexeme_of_run (found : LineKeywords words none lexemes)
    {before run after : Text} (cut : Lexeme.source lexemes = before ++ (run ++ after))
    (maximal : Text.IsMaximalRun before run after) (listed : run ∈ words) :
    ∃ earlier lexeme later head tail, lexemes = earlier ++ lexeme :: later ∧
      before = Lexeme.source earlier ++ head ∧ lexeme.value = head ++ tail ∧ tail ≠ [] ∧
      (lexeme.kind = .keyword ∧ head = [] ∧ tail = run ∨ lexeme.kind.region ≠ .code) := by
  obtain ⟨isWord, start, stop⟩ := maximal
  have inside : run ++ after ≠ [] := fun empty => isWord.1 (List.append_eq_nil_iff.1 empty).1
  obtain ⟨earlier, lexeme, later, head, tail, rfl, rfl, split, nonempty, behind⟩ :=
    Lexeme.exists_split_of_source cut inside
  refine ⟨earlier, lexeme, later, head, tail, rfl, rfl, split, nonempty, ?_⟩
  have here := found.at_split
  rw [Option.or_none] at here
  rw [List.getLast?_append] at start
  have runHere := Text.takeWhile_append_of_stop isWord.2 stop
  cases here with
  | apart outside => exact .inr outside
  | keyword kind known startHere stopHere =>
      have wordHere := isWord_of_isName isName _ known
      have noHead : head = [] := by
        by_contra nonempty
        have passed : Text.IsWord head := by
          refine ⟨nonempty, fun d member => wordHere.2 d ?_⟩
          rw [split]
          exact List.mem_append_left tail member
        rw [passed.getLast?_or, passed.isWordSide_getLast?] at start
        exact Bool.noConfusion start
      rw [noHead, List.nil_append] at split
      rw [split] at wordHere
      have tailHere := Text.takeWhile_append_of_stop wordHere.2 stopHere
      rw [← behind, runHere] at tailHere
      exact .inl ⟨kind, noHead, tailHere.symm⟩
  | free _ _ absent =>
      exfalso
      obtain ⟨d, others, rfl⟩ := List.exists_cons_of_ne_nil nonempty
      have missing := absent head d others split
      rw [← behind, keywordAt?_of_isWord (isWord_of_isName isName), runHere,
        if_pos ⟨start, listed⟩] at missing
      exact Option.some_ne_none run missing

/-- Without strings and comments, the segments of a line are those of its
lexemes. -/
theorem LineKeywords.segmentsFrom_source {before : Option Char}
    (found : LineKeywords words before lexemes)
    (code : ∀ lexeme ∈ lexemes, lexeme.kind.region = .code) :
    segmentsFrom words 0 before (Lexeme.source lexemes) =
      lexemes.flatMap fun lexeme =>
        if lexeme.kind = .keyword then [.keyword lexeme.value] else lexeme.value.map .kept := by
  have isWord := isWord_of_isName isName
  induction found with
  | nil before =>
      rw [Lexeme.source, List.flatMap_nil, segmentsFrom, keywordAt?_of_mark isWord before rfl]
      rfl
  | @cons before lexeme others first behind ih =>
      rw [List.forall_mem_cons] at code
      have rest := ih code.2
      rw [Lexeme.source, List.flatMap_cons, List.flatMap_cons, ← Lexeme.source]
      cases first with
      | keyword kind listed start stop =>
          have wordHere := isWord _ listed
          rw [wordHere.getLast?_or] at rest
          rw [segmentsFrom_append_run isWord wordHere start stop, rest, if_pos kind,
            Piece.segments_of_mem listed]
      | free other _ absent =>
          rw [segmentsFrom_append_kept absent, rest, if_neg other]
      | apart outside => exact absurd code.1 outside

/-- Without strings and comments, translating a line is translating its lexemes. -/
theorem LineKeywords.replaceKeywords_source (found : LineKeywords words none lexemes)
    (code : ∀ lexeme ∈ lexemes, lexeme.kind.region = .code) (image : Text → Text)
    (written : Text.isBlank (Lexeme.source lexemes) = false) :
    replaceKeywords words image (Lexeme.source lexemes) =
      lexemes.flatMap fun lexeme =>
        if lexeme.kind = .keyword then image lexeme.value else lexeme.value := by
  rw [replaceKeywords, if_neg (by simp [written]), segments, found.segmentsFrom_source isName code,
    List.flatMap_assoc]
  simp only [flatMap_render_lexeme]

end

theorem TokenKind.region_ne_code_iff (kind : TokenKind) :
    kind.region ≠ .code ↔ kind ∈ [string, escape, brokenString, comment] := by
  cases kind <;> decide

namespace Table

/-- The surface keywords of the default table are names. -/
theorem default_isName_of_mem_surfaces : ∀ word ∈ default.surfaces, word.IsName := by
  decide +kernel

theorem forwardWord_surface (table : Table) {word : Text} (listed : word ∈ table.surfaces) :
    ∃ entry ∈ table.entries, entry.surface = word ∧ table.forwardWord word = entry.target := by
  obtain ⟨entry, member, rfl⟩ := List.mem_map.1 listed
  exact ⟨entry, member, rfl, table.forwardWord_eq_target member⟩

/-- The keyword tokens of a line are the keywords that the translation replaces,
up to strings and comments. -/
theorem keyword_agreement (number : Int) (line : Text) :
    let tokens := (default.tokenizeLine .code number line).1
    (∀ token ∈ tokens, token.kind = .keyword → ∃ before after,
        line = before ++ token.value ++ after ∧ token.column = before.length + 1 ∧
        Text.IsMaximalRun before token.value after ∧
        ∃ entry ∈ default.entries, entry.surface = token.value ∧
          default.forwardWord token.value = entry.target) ∧
      (∀ before run after, line = before ++ run ++ after → Text.IsMaximalRun before run after →
        run ∈ default.surfaces →
        (∃ token ∈ tokens, token.kind = .keyword ∧ token.value = run ∧
          token.column = before.length + 1) ∨
        ∃ token ∈ tokens, token.Covers (before.length + 1) ∧
          token.kind ∈ [.string, .escape, .brokenString, .comment]) ∧
      (line.isBlank = false →
        (∀ token ∈ tokens, token.kind ∉ [.string, .escape, .brokenString, .comment]) →
        default.forward line = tokens.flatMap fun token =>
          if token.kind = .keyword then default.forwardWord token.value else token.value) := by
  have isName := default_isName_of_mem_surfaces
  have found := lineKeywords_scanFrom isName (Mode.noConfusion : Mode.code ≠ .blanks) none line
  have source := source_scanFrom default.surfaces .code none line
  simp only [tokenizeLine, scanLine]
  generalize (scanFrom default.surfaces .code none line).1 = lexemes at found source ⊢
  refine ⟨fun token member kind => ?_, fun before run after cut maximal listed => ?_,
    fun written code => ?_⟩
  · obtain ⟨earlier, later, rfl, column⟩ := Lexeme.exists_split_of_mem_place member
    obtain ⟨listed, maximal⟩ := found.isMaximalRun isName kind
    refine ⟨_, _, ?_, ?_, maximal, default.forwardWord_surface listed⟩
    · rw [← source]
      simp [Lexeme.source]
    · rw [column, Nat.add_comm]
  · rw [List.append_assoc, ← source] at cut
    obtain ⟨earlier, lexeme, later, head, tail, rfl, rfl, split, nonempty, found⟩ :=
      found.lexeme_of_run isName cut maximal listed
    have member := Lexeme.mem_place_of_split number 1 earlier lexeme later
    rcases found with ⟨kind, rfl, rfl⟩ | outside
    · refine .inl ⟨_, member, kind, split, ?_⟩
      rw [List.append_nil, Nat.add_comm]
    · refine .inr ⟨_, member, ?_, (TokenKind.region_ne_code_iff _).1 outside⟩
      have inside := List.length_pos_iff.2 nonempty
      simp only [Token.Covers, Token.endColumn, split, List.length_append]
      omega
  · have inCode : ∀ lexeme ∈ lexemes, lexeme.kind.region = .code := by
      intro lexeme member
      by_contra outside
      obtain ⟨earlier, later, rfl⟩ := List.append_of_mem member
      exact code _ (Lexeme.mem_place_of_split number 1 earlier lexeme later)
        ((TokenKind.region_ne_code_iff _).1 outside)
    rw [← source] at written ⊢
    rw [forward, found.replaceKeywords_source isName inCode default.forwardWord written,
      Lexeme.flatMap_place fun kind value =>
        if kind = .keyword then default.forwardWord value else value]

/-- A line on which one surface keyword continues a number and another stands by
itself. -/
theorem keyword_agreement_numbers :
    let tokens := (default.tokenizeLine .code 1 ".5e3ukuba (nge)").1
    ⟨.keyword, "nge", 1, 12⟩ ∈ tokens ∧
      Text.IsMaximalRun ".5e3ukuba (" "nge" ")" ∧
      ("nge" : Text) ∈ default.surfaces ∧
      Text.isBlank ".5e3ukuba (nge)" = false ∧
      (∀ token ∈ tokens, token.kind ∉ [.string, .escape, .brokenString, .comment]) ∧
      (∃ before after, (".5e3ukuba (nge)" : Text) = before ++ "nge" ++ after ∧
        Text.IsMaximalRun before "nge" after) ∧
      (∃ token ∈ tokens, token.kind = .keyword ∧ token.value = "nge" ∧ token.column = 12) ∧
      default.forward ".5e3ukuba (nge)" = tokens.flatMap fun token =>
        if token.kind = .keyword then default.forwardWord token.value else token.value := by
  have member : ⟨.keyword, "nge", 1, 12⟩ ∈
      (default.tokenizeLine .code 1 ".5e3ukuba (nge)").1 := by
    decide +kernel
  have maximal : Text.IsMaximalRun ".5e3ukuba (" "nge" ")" :=
    ⟨by decide +kernel, by decide +kernel, by decide +kernel⟩
  have listed : ("nge" : Text) ∈ default.surfaces := by decide +kernel
  have written : Text.isBlank ".5e3ukuba (nge)" = false := by decide +kernel
  have code : ∀ token ∈ (default.tokenizeLine .code 1 ".5e3ukuba (nge)").1,
      token.kind ∉ [.string, .escape, .brokenString, .comment] := by
    decide +kernel
  obtain ⟨runs, keywords, translated⟩ := keyword_agreement 1 ".5e3ukuba (nge)"
  obtain ⟨before, after, cut, -, maximalFirst, -⟩ := runs _ member rfl
  refine ⟨member, maximal, listed, written, code, ⟨before, after, cut, maximalFirst⟩, ?_,
    translated written code⟩
  rcases keywords _ _ _ rfl maximal listed with found | ⟨token, inTokens, -, quoted⟩
  · exact found
  · exact absurd quoted (code token inTokens)

end Table

end KeywordBridge
