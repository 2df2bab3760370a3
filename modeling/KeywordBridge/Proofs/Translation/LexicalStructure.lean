import KeywordBridge.Proofs.Token.Delimiters
import KeywordBridge.Proofs.Token.Lossless
import KeywordBridge.Proofs.Translation.RenamedReports
import KeywordBridge.Proofs.Translation.RunImages

/-!
# The translation keeps the lexical structure of a program

The default table replaces names by new names of at least two characters. So a program
and its translation have the same lines and the same tokens on them, up to the keywords,
which become names, and to what is written inside strings and comments.
-/

namespace KeywordBridge

namespace Table

/-- The targets of the default table are names that are no surface keywords, and none of
its keywords is a single character. -/
theorem default_newNames : ∀ entry ∈ default.entries,
    (entry.target.IsName ∧ entry.target ∉ default.surfaces) ∧
      2 ≤ entry.surface.length ∧ 2 ≤ entry.target.length := by
  decide +kernel

/-- The default table renames its surface keywords. -/
theorem default_renaming : Renaming default.surfaces default.forwardWord where
  kept _ unlisted := default.forwardWord_of_not_mem_surfaces unlisted
  isName := default_isName_of_mem_surfaces
  isNewName word listed := by
    obtain ⟨entry, member, -, target⟩ := default.forwardWord_surface listed
    rw [target]
    exact (default_newNames entry member).1
  long word listed := by
    obtain ⟨entry, member, same, target⟩ := default.forwardWord_surface listed
    rw [target, ← same]
    exact (default_newNames entry member).2

theorem lines_forward {text : Text} (written : text.isBlank = false) :
    (default.forward text).lines = text.lines.map (Text.mapWords default.forwardWord) := by
  rw [default_hasWordKeywords.forward_eq_mapWords written,
    Text.lines_mapWords default_renaming.isWord_image]

theorem map_kind_of_renamed {image : Text → Text} {line : Text} {tokens others : List Token}
    (pairs : List.Forall₂ (Token.IsRenamed image line) tokens others) :
    others.map (·.kind) = tokens.map (·.kind.renamed) := by
  induction pairs with
  | nil => rfl
  | cons here _ ih => rw [List.map_cons, List.map_cons, ih, here.kind]

/-- A program that is not blank and its translation have the same lexical structure:
line by line the same kinds of tokens, except that keywords become names, with the same
values outside strings and comments, at the places where the translation puts them. A
string or a comment begins and ends where no word is cut, and thus where the
translation of the line up to there ends. Every line starts in the same mode, and the
same lines are reported for unbalanced parentheses and broken strings. -/
theorem lexical_structure {text : Text} (written : text.isBlank = false) :
    let translated := default.forward text
    (default.tokenizeLines translated).length = (default.tokenizeLines text).length ∧
      (∀ (index : Nat) (line : Text) (tokens others : List Token),
        text.lines[index]? = some line →
        (default.tokenizeLines text)[index]? = some tokens →
        (default.tokenizeLines translated)[index]? = some others →
        others.map (·.kind) =
            tokens.map (fun token =>
              if token.kind = .keyword then .identifier else token.kind) ∧
          List.Forall₂ (Token.IsRenamed default.forwardWord line.dropReturns) tokens others ∧
          tokens.IsChain fun first second => first.kind.region ≠ second.kind.region →
            line.dropReturns.IsCutAt (second.column - 1)) ∧
      (∀ count, default.modeAfter .code (translated.lines.take count) =
        default.modeAfter .code (text.lines.take count)) ∧
      ∀ problem ∈ [.unbalancedParentheses, .brokenString],
        ((default.validate translated).filter (·.problem = problem)).map (·.line) =
          ((default.validate text).filter (·.problem = problem)).map (·.line) := by
  intro translated
  have renames := default_renaming
  have words := default_hasWordKeywords
  have lines : translated.lines = text.lines.map (Text.mapWords default.forwardWord) :=
    lines_forward written
  have oneLine : ∀ line ∈ text.lines, '\n' ∉ line.dropReturns :=
    fun _ => Text.newline_not_mem_dropReturns
  have oneLineAbove (count : Nat) : ∀ line ∈ text.lines.take count, '\n' ∉ line.dropReturns :=
    fun line member => oneLine line (List.mem_of_mem_take member)
  have modes (count : Nat) : default.modeAfter .code (translated.lines.take count) =
      default.modeAfter .code (text.lines.take count) := by
    rw [lines, ← List.map_take]
    exact renames.modeAfter_renamed words (.inl rfl) (oneLineAbove count)
  refine ⟨?_, fun index line tokens others isLine isTokens isOthers => ?_, modes,
    fun problem listed => ?_⟩
  · rw [length_tokenizeLines, length_tokenizeLines, lines, List.length_map]
  · rw [getElem?_tokenizeLines, isLine, Option.map_some, Option.some_inj] at isTokens
    rw [getElem?_tokenizeLines, modes, lines, List.getElem?_map, isLine, Option.map_some,
      Option.map_some, Option.some_inj, Text.dropReturns_mapWords renames.isWord_image] at isOthers
    have here := oneLine line (List.mem_of_getElem? isLine)
    have start := words.startsLine_modeAfter (.inl rfl) (oneLineAbove index)
    have pairs := renames.tokenizeLine_renamed start (index + 1 : Nat) here
    rw [isTokens, isOthers] at pairs
    refine ⟨map_kind_of_renamed pairs, pairs, ?_⟩
    rw [← isTokens]
    exact default.isChain_isCutAt_tokenizeLine renames.isName start _ here
  · apply map_line_mergeSort
    rw [read, lines]
    exact diagnose_of_renamed words renames listed (.inl rfl) 1 oneLine

/-- A program in which an escape cuts a keyword, one string runs over two lines, another
is broken off, and keywords stand in comments and behind digits. -/
theorem lexical_structure_escape :
    let text : Text := "ngu '\\nge' ( # nge\n\"\"\"hayi\nnge\"\"\" .5e3nge 'nge"
    text.isBlank = false ∧
      (default.tokenizeLines (default.forward text)).length = 3 ∧
      (∃ others : List Token, (default.tokenizeLines (default.forward text))[0]? = some others ∧
        others.map (·.kind) = [.identifier, .white, .string, .escape, .string, .string, .white,
          .bracket, .white, .comment]) ∧
      default.modeAfter .code ((default.forward text).lines.take 2) = .inTriple .double ∧
      ((default.validate (default.forward text)).filter
        (·.problem = .unbalancedParentheses)).map (·.line) = [1] ∧
      ((default.validate (default.forward text)).filter (·.problem = .brokenString)).map
        (·.line) = [3] := by
  intro text
  -- One evaluation scans the program once for all of this.
  have scanned : text.isBlank = false ∧
      (default.tokenizeLines text).map (List.map (·.kind)) =
        [[.keyword, .white, .string, .escape, .string, .string, .white, .bracket, .white, .comment],
          [.string, .string],
          [.string, .string, .white, .float, .identifier, .white, .brokenString]] ∧
      default.modeAfter .code (text.lines.take 2) = .inTriple .double ∧
      default.diagnose (default.read text) =
        [⟨1, 1, 2, .unbalancedParentheses⟩, ⟨3, 16, 20, .brokenString⟩] := by
    decide +kernel
  obtain ⟨written, kinds, mode, diagnosed⟩ := scanned
  obtain ⟨length, groups, modes, reports⟩ := lexical_structure written
  have three : (default.tokenizeLines text).length = 3 := by
    rw [← List.length_map, kinds]
    rfl
  have found : default.validate text =
      [⟨1, 1, 2, .unbalancedParentheses⟩, ⟨3, 16, 20, .brokenString⟩] := by
    rw [validate, diagnosed, List.mergeSort_of_pairwise (by decide)]
  have firstKinds : ((default.tokenizeLines text).map (List.map (·.kind)))[0]? = _ :=
    congrArg (·[0]?) kinds
  rw [List.getElem?_map, List.getElem?_cons_zero, Option.map_eq_some_iff] at firstKinds
  obtain ⟨tokens, isTokens, tokenKinds⟩ := firstKinds
  obtain ⟨line, isLine, -⟩ : ∃ line, text.lines[0]? = some line ∧ _ := by
    rw [getElem?_tokenizeLines, Option.map_eq_some_iff] at isTokens
    exact isTokens
  have inside : 0 < (default.tokenizeLines (default.forward text)).length := by
    rw [length, three]
    decide
  have isOthers := List.getElem?_eq_getElem inside
  have otherKinds := (groups 0 line tokens _ isLine isTokens isOthers).1
  have renamed : tokens.map (fun token =>
      if token.kind = .keyword then .identifier else token.kind) =
      (tokens.map (·.kind)).map TokenKind.renamed := by
    rw [List.map_map]
    rfl
  rw [renamed, tokenKinds] at otherKinds
  refine ⟨written, length.trans three, ⟨_, isOthers, otherKinds⟩, (modes 2).trans mode, ?_, ?_⟩
  · rw [reports _ (by decide), found]
    decide
  · rw [reports _ (by decide), found]
    decide

end Table

end KeywordBridge
