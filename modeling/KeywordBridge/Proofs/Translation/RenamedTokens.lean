import KeywordBridge.Proofs.Translation.RenamedStrings

/-!
# Tokens under a renaming of keywords

A text and the renamed text are cut into tokens side by side. At every position both
are in the same mode: in code the rest of the text is rendered, in a string it is
rewritten, and a token that runs to the end of the line leaves nothing on both sides.
So the next token is of the same kind, except that a keyword becomes a name, and what
is not in a string or a comment reads as the translation of the token by itself.
-/

namespace KeywordBridge

/-- The kind of a token after the renaming: a keyword becomes a name. -/
def TokenKind.renamed (kind : TokenKind) : TokenKind :=
  if kind = .keyword then .identifier else kind

/-- How a lexeme of the renamed text stands for a lexeme of the text. -/
structure Lexeme.IsRenamed (image : Text → Text) (lexeme other : Lexeme) : Prop where
  kind : other.kind = lexeme.kind.renamed
  value : lexeme.kind.region = .code →
    other.value = if lexeme.kind = .keyword then image lexeme.value else lexeme.value
  isBlank : other.value.isBlank = lexeme.value.isBlank

/-- What is left of a text behind `before` and of the renamed text behind `other`, if
both are read in the same mode. -/
inductive Follows (words : List Text) (image : Text → Text) (before other : Option Char) :
    Mode → Text → Text → Prop
  | code (sides : Text.isWordSide other = Text.isWordSide before) (text : Text) :
      Follows words image before other .code text (renderFrom words image before text)
  | string {mode : Mode} {quote : Quote} {text renamed : Text} (inside : mode.quote? = some quote)
      (rewrites : Rewrites image before text renamed) :
      Follows words image before other mode text renamed
  /-- The line has ended. -/
  | ended : Follows words image before other .code [] []

/-- How the next token of a renamed text goes with the next token of the text. -/
structure StepFollows (words : List Text) (image : Text → Text) (c : Char) (rest : Text)
    (step : TokenStep) (d : Char) (others : Text) (next : TokenStep) : Prop where
  mode : next.mode = step.mode
  lexeme : Lexeme.IsRenamed image ⟨step.kind, c :: rest.take step.extra⟩
    ⟨next.kind, d :: others.take next.extra⟩
  behind : Follows words image (c :: rest.take step.extra).getLast?
    (d :: others.take next.extra).getLast? step.mode (rest.drop step.extra)
    (others.drop next.extra)

/-- A lexeme outside code stands for one of the same kind. -/
theorem Lexeme.isRenamed_of_outside (image : Text → Text) {kind : TokenKind} {value other : Text}
    (outside : kind.region ≠ .code) (isBlank : other.isBlank = value.isBlank) :
    Lexeme.IsRenamed image ⟨kind, value⟩ ⟨kind, other⟩ where
  kind := by
    rw [TokenKind.renamed, if_neg]
    rintro rfl
    exact outside rfl
  value code := absurd code outside
  isBlank := isBlank

/-- A text with a character in front that is no blank is not blank. -/
theorem Text.isBlank_cons_of_visible {c : Char} (visible : isBlankChar c = false) (rest : Text) :
    Text.isBlank (c :: rest) = false := by
  rw [Text.isBlank, List.all_cons, visible, Bool.false_and]

/-- A quote or a backslash that stays in a string is found again. -/
theorem stepFollows_of_mark (words : List Text) (image : Text → Text) {mode : Mode} {quote : Quote}
    (inside : mode.quote? = some quote) (c : Char) (rest : Text) :
    StepFollows words image c rest ⟨.string, 0, mode⟩ c (rest.mapWords image)
      ⟨.string, 0, mode⟩ where
  mode := rfl
  lexeme := Lexeme.isRenamed_of_outside image Region.noConfusion rfl
  behind := .string inside (.whole rest)

/-- A comment or a broken string that runs to the end of the line is found again. -/
theorem stepFollows_of_last (words : List Text) (image : Text → Text) {kind : TokenKind}
    (outside : kind.region ≠ .code) {c : Char} (visible : isBlankChar c = false)
    (rest others : Text) :
    StepFollows words image c rest ⟨kind, rest.length, .code⟩ c others
      ⟨kind, others.length, .code⟩ where
  mode := rfl
  lexeme := by
    apply Lexeme.isRenamed_of_outside image outside
    rw [Text.isBlank_cons_of_visible visible, Text.isBlank_cons_of_visible visible]
  behind := by
    rw [List.drop_length, List.drop_length]
    exact .ended

section

variable {words : List Text} {image : Text → Text} (renames : Renaming words image)

include renames

/-! ## Strings -/

/-- Behind a mark, code is rendered by replacing words. -/
theorem Renaming.follows_behind_mark {before other : Option Char}
    (mark : Text.isWordSide before = false) (otherMark : Text.isWordSide other = false)
    (text : Text) : Follows words image before other .code text (text.mapWords image) := by
  rw [← renames.renderFrom_eq_mapWords (.inl mark)]
  exact .code (otherMark.trans mark.symm) text

/-- An escape is found again, whatever becomes of the character that it takes. -/
theorem Renaming.stepFollows_of_escape {mode : Mode} {quote : Quote}
    (inside : mode.quote? = some quote) {rest : Text} (escapable : hasEscapable rest = true) :
    hasEscapable (rest.mapWords image) = true ∧
      StepFollows words image '\\' rest ⟨.escape, 1, mode⟩ '\\' (rest.mapWords image)
        ⟨.escape, 1, mode⟩ := by
  cases rest with
  | nil => exact Bool.noConfusion escapable
  | cons d behind =>
      obtain ⟨e, others, renamed, breaks, goesOn⟩ := renames.rewrites_behind d behind
      rw [hasEscapable, bne_iff_ne] at escapable
      have visible : isBlankChar '\\' = false := by decide
      rw [renamed, hasEscapable, bne_iff_ne, ne_eq, breaks]
      refine ⟨escapable, rfl, ?_, .string inside goesOn⟩
      apply Lexeme.isRenamed_of_outside image Region.noConfusion
      rw [Text.isBlank_cons_of_visible visible, Text.isBlank_cons_of_visible visible]

/-- Where a text in a string goes on with a plain character, so does the rewritten one. -/
theorem Rewrites.exists_cons {before : Option Char} {c : Char} {rest text : Text} {quote : Quote}
    (rewrites : Rewrites image before (c :: rest) text) (plain : isPlainIn quote c = true) :
    ∃ d others, text = d :: others ∧ isPlainIn quote d = true := by
  by_cases word : isWordChar c = true
  · obtain ⟨run, other, after, -, rfl, -, isOther, -⟩ := rewrites.of_word renames word
    obtain ⟨d, others, rfl⟩ := List.exists_cons_of_ne_nil isOther.1
    exact ⟨d, _, rfl, isPlainIn_of_isWordChar quote (isOther.2 d List.mem_cons_self)⟩
  · exact ⟨c, _, rewrites.of_mark (Bool.eq_false_iff.2 word), plain⟩

/-- A run of plain characters in a string is found again. -/
theorem Renaming.stepFollows_of_plain {mode : Mode} {quote : Quote}
    (inside : mode.quote? = some quote) {before : Option Char} {c d : Char} {rest others : Text}
    (rewrites : Rewrites image before (c :: rest) (d :: others))
    (plain : isPlainIn quote c = true) (otherPlain : isPlainIn quote d = true) :
    StepFollows words image c rest ⟨.string, Text.countWhile (isPlainIn quote) rest, mode⟩
      d others ⟨.string, Text.countWhile (isPlainIn quote) others, mode⟩ where
  mode := rfl
  lexeme := by
    apply Lexeme.isRenamed_of_outside image Region.noConfusion
    have blank := rewrites.isBlank_takeWhile renames fun _ => isPlainIn_of_isWordChar quote
    rw [List.takeWhile_cons_of_pos plain, List.takeWhile_cons_of_pos otherPlain] at blank
    rw [take_countWhile, take_countWhile, blank]
  behind := by
    have renamed := rewrites.dropWhile renames fun _ => isPlainIn_of_isWordChar quote
    rw [List.dropWhile_cons_of_pos plain, List.dropWhile_cons_of_pos otherPlain] at renamed
    rw [drop_countWhile, drop_countWhile, renamed]
    exact .string inside (.whole _)

/-- The next token inside a string that ends on its line is found again. -/
theorem Renaming.inLineStep_follows {quote : Quote} {before : Option Char} {c : Char}
    {rest text : Text} (oneLine : '\n' ∉ rest)
    (rewrites : Rewrites image before (c :: rest) text) :
    ∃ d others, text = d :: others ∧
      StepFollows words image c rest (inLineStep quote c rest) d others
        (inLineStep quote d others) := by
  rcases mark_or_backslash_or_plain quote c with rfl | rfl | plain
  · refine ⟨_, _, rewrites.of_mark quote.isWordChar_mark, ?_⟩
    rw [inLineStep_of_mark, inLineStep_of_mark]
    have mark : Text.isWordSide (some quote.mark) = false := quote.isWordChar_mark
    exact ⟨rfl, Lexeme.isRenamed_of_outside image Region.noConfusion rfl,
      renames.follows_behind_mark mark mark rest⟩
  · refine ⟨_, _, rewrites.of_mark isWordChar_backslash, ?_⟩
    rw [inLineStep_of_backslash, inLineStep_of_backslash]
    by_cases escapable : hasEscapable rest = true
    · have inside : (Mode.inLine quote).quote? = some quote := rfl
      obtain ⟨again, follows⟩ := renames.stepFollows_of_escape inside escapable
      rw [if_pos escapable, if_pos again]
      exact follows
    · cases eq_nil_of_hasEscapable oneLine escapable
      have visible : isBlankChar '\\' = false := by decide
      rw [Text.mapWords_nil]
      exact stepFollows_of_last words image Region.noConfusion visible [] []
  · obtain ⟨d, others, rfl, again⟩ := rewrites.exists_cons renames plain
    refine ⟨d, others, rfl, ?_⟩
    rw [inLineStep_of_plain plain, inLineStep_of_plain again]
    exact renames.stepFollows_of_plain rfl rewrites plain again

/-- Two quotes behind a quote are found again, and what follows them. -/
theorem Renaming.completesTriple_mapWords (quote : Quote) (rest : Text) :
    completesTriple quote (rest.mapWords image) = completesTriple quote rest := by
  apply renames.isPrefixOf_mapWords
  intro c member
  rw [List.mem_cons, List.mem_singleton, or_self] at member
  rw [member, quote.isWordChar_mark]

omit renames in
/-- A triple quote is found again. -/
theorem stepFollows_of_triple {quote : Quote} {rest : Text}
    (triple : completesTriple quote rest = true) {mode : Mode}
    (follows : ∀ last text, Text.isWordSide last = false →
      Follows words image last last mode text (text.mapWords image)) :
    StepFollows words image quote.mark rest ⟨.string, 2, mode⟩ quote.mark
      (rest.mapWords image) ⟨.string, 2, mode⟩ := by
  rw [completesTriple, List.isPrefixOf_iff_prefix] at triple
  obtain ⟨behind, rfl⟩ := triple
  have mark := quote.isWordChar_mark
  rw [List.cons_append, List.singleton_append, Text.mapWords_cons_mark image mark,
    Text.mapWords_cons_mark image mark]
  exact ⟨rfl, Lexeme.isRenamed_of_outside image Region.noConfusion rfl, follows _ behind mark⟩

/-- The next token inside a triple-quoted string is found again. -/
theorem Renaming.inTripleStep_follows {quote : Quote} {before : Option Char} {c : Char}
    {rest text : Text} (oneLine : '\n' ∉ rest)
    (rewrites : Rewrites image before (c :: rest) text) :
    ∃ d others, text = d :: others ∧
      StepFollows words image c rest (inTripleStep quote c rest) d others
        (inTripleStep quote d others) := by
  have inside : (Mode.inTriple quote).quote? = some quote := rfl
  rcases mark_or_backslash_or_plain quote c with rfl | rfl | plain
  · refine ⟨_, _, rewrites.of_mark quote.isWordChar_mark, ?_⟩
    rw [inTripleStep_of_mark, inTripleStep_of_mark, renames.completesTriple_mapWords]
    split
    · rename_i triple
      exact stepFollows_of_triple triple fun last text mark =>
        renames.follows_behind_mark mark mark text
    · exact stepFollows_of_mark words image inside _ rest
  · refine ⟨_, _, rewrites.of_mark isWordChar_backslash, ?_⟩
    rw [inTripleStep_of_backslash, inTripleStep_of_backslash]
    by_cases escapable : hasEscapable rest = true
    · obtain ⟨again, follows⟩ := renames.stepFollows_of_escape inside escapable
      rw [if_pos escapable, if_pos again]
      exact follows
    · cases eq_nil_of_hasEscapable oneLine escapable
      have follows := stepFollows_of_mark words image inside '\\' []
      rw [Text.mapWords_nil] at follows ⊢
      exact follows
  · obtain ⟨d, others, rfl, again⟩ := rewrites.exists_cons renames plain
    refine ⟨d, others, rfl, ?_⟩
    rw [inTripleStep_of_plain plain, inTripleStep_of_plain again]
    exact renames.stepFollows_of_plain inside rewrites plain again

/-- The token of a quote in code is found again. -/
theorem Renaming.openingStep_follows (quote : Quote) (rest : Text) :
    StepFollows words image quote.mark rest (openingStep quote rest) quote.mark
      (rest.mapWords image) (openingStep quote (rest.mapWords image)) := by
  have whole : Rewrites image (some quote.mark) rest (rest.mapWords image) := .whole rest
  rw [openingStep, openingStep, renames.completesTriple_mapWords, whole.staysOpen renames]
  split
  · rename_i triple
    exact stepFollows_of_triple triple fun last text _ => .string rfl (.whole text)
  · split
    · exact stepFollows_of_last words image Region.noConfusion quote.isBlankChar_mark rest _
    · have inside : (Mode.inLine quote).quote? = some quote := rfl
      exact stepFollows_of_mark words image inside _ rest

/-! ## Code -/

/-- A keyword becomes a name. -/
theorem Renaming.stepFollows_of_keyword {before other : Option Char} {c : Char} {rest : Text}
    (start : Text.isWordSide before = false)
    (listed : c :: rest.takeWhile isWordChar ∈ words) :
    ∃ d others, renderFrom words image before (c :: rest) = d :: others ∧
      StepFollows words image c rest ⟨.keyword, Text.countWhile isWordChar rest, .code⟩ d others
        (codeStep words other d others) := by
  have stop := Text.isWordSide_head?_dropWhile rest
  have cut := Text.cons_eq_run_append c rest
  have isWord := renames.isWord _ listed
  obtain ⟨isName, fresh⟩ := renames.isNewName _ listed
  obtain ⟨d, name, imageOf, starts, chars⟩ := isName.exists_cons
  have rendered := renames.renderFrom_append_keyword listed start stop
  have isImage := isName.1
  rw [← cut, imageOf, List.cons_append] at rendered
  refine ⟨d, _, rendered, ?_⟩
  have stops : Text.isWordSide (Text.mapWords image (rest.dropWhile isWordChar)).head? = false := by
    rw [Text.head?_mapWords image stop, stop]
  have run := Text.takeWhile_append_of_stop chars stops
  have behind := Text.dropWhile_append_of_stop chars stops
  -- The image is no keyword, so the rule for names is the one that finds it.
  have free : keywordAt? words other
      (d :: (name ++ Text.mapWords image (rest.dropWhile isWordChar))) = none := by
    rw [keywordAt?_of_isWord renames.isWord, List.takeWhile_cons_of_pos
      (isWordChar_of_startsName starts), run, ← imageOf, if_neg fun both => fresh both.2]
  rw [codeStep, free]
  simp only [plainStep_of_startsName starts]
  refine ⟨rfl, ⟨rfl, fun _ => ?_, ?_⟩, ?_⟩
  · simp only [take_countWhile, run, if_true]
    exact imageOf.symm
  · simp only [take_countWhile, run]
    rw [← imageOf, isBlank_of_isWord isImage, isBlank_of_isWord isWord]
  · simp only [take_countWhile, drop_countWhile, run, behind]
    rw [← renames.renderFrom_eq_mapWords (.inr stop)]
    refine .code ?_ _
    rw [← imageOf, isImage.isWordSide_getLast?, isWord.isWordSide_getLast?]

/-- What is kept of a text in front of its rest can be cut off again. -/
theorem Renaming.take_drop_renderFrom {before : Option Char} {rest : Text} (extra : Nat) :
    let whole := rest.take extra ++ renderFrom words image before (rest.drop extra)
    whole.take extra = rest.take extra ∧
      whole.drop extra = renderFrom words image before (rest.drop extra) := by
  intro whole
  rcases Nat.le_total extra rest.length with inside | beyond
  · have length : (rest.take extra).length = extra := List.length_take_of_le inside
    exact ⟨List.take_left' length, List.drop_left' length⟩
  · have ends : whole = rest := by
      simp only [whole]
      rw [List.drop_eq_nil_of_le beyond, renames.renderFrom_nil, List.append_nil,
        List.take_of_length_le beyond]
    rw [ends, List.drop_eq_nil_of_le beyond, renames.renderFrom_nil]
    exact ⟨rfl, rfl⟩

/-- A token that is neither a keyword nor a string nor a comment is kept. -/
theorem Renaming.stepFollows_of_kept {before : Option Char} {c : Char} {rest : Text}
    (free : keywordAt? words before (c :: rest) = none) (stays : leavesCode c = false) :
    StepFollows words image c rest (plainStep c rest) c (renderFrom words image (some c) rest)
      (plainStep c rest) := by
  have token := plainToken_plainStep c rest
  obtain ⟨code, region⟩ := plainToken_of_stays stays token
  have noKeyword := kind_ne_keyword_of_plainToken token
  have found := lexemeKeywords_codeToken renames.isName (.plain free token)
  generalize plainStep c rest = step at found code region noKeyword
  cases found with
  | keyword kind => exact absurd kind noKeyword
  | apart outside => exact absurd region outside
  | free _ _ absent =>
      -- No keyword starts inside the token, so all of it is rendered as it is.
      have last : (c :: rest.take step.extra).getLast?.or before =
          (c :: rest.take step.extra).getLast? := by
        rw [List.getLast?_cons, Option.some_or]
      have kept : renderFrom words image before (c :: rest.take step.extra ++ rest.drop step.extra) =
          _ := renderFrom_append_kept absent
      rw [List.cons_append, List.take_append_drop, renderFrom_cons_of_free free, last,
        List.cons_append, List.cons_inj_right] at kept
      obtain ⟨front, back⟩ := renames.take_drop_renderFrom step.extra
      rw [← kept] at front back
      refine ⟨rfl, ⟨?_, fun _ => ?_, ?_⟩, ?_⟩
      · rw [TokenKind.renamed, if_neg noKeyword]
      · rw [front, if_neg noKeyword]
      · rw [front]
      · rw [front, back, code]
        exact .code rfl _

/-- A comment is found again. -/
theorem Renaming.stepFollows_of_sign {rest : Text} (oneLine : '\n' ∉ rest) :
    StepFollows words image '#' rest (plainStep '#' rest) '#' (rest.mapWords image)
      (plainStep '#' (rest.mapWords image)) := by
  have noBreak : isWordChar '\n' = false := by decide
  have visible : isBlankChar '#' = false := by decide
  have again : '\n' ∉ rest.mapWords image := fun member =>
    oneLine (Text.mem_of_mem_mapWords renames.isWord_image noBreak member)
  rw [plainStep_sign oneLine, plainStep_sign again]
  exact stepFollows_of_last words image Region.noConfusion visible rest _

/-- The next token in code is found again. -/
theorem Renaming.codeStep_follows {before other : Option Char}
    (sides : Text.isWordSide other = Text.isWordSide before) {c : Char} {rest : Text}
    (oneLine : '\n' ∉ rest) :
    ∃ d others, renderFrom words image before (c :: rest) = d :: others ∧
      StepFollows words image c rest (codeStep words before c rest) d others
        (codeStep words other d others) := by
  have token := codeToken_codeStep renames.isWord before c rest
  generalize found : codeStep words before c rest = step at token ⊢
  cases token with
  | keyword start _ listed => exact renames.stepFollows_of_keyword start listed
  | plain free _ =>
      have again := renames.keywordAt?_renderFrom sides free
      refine ⟨c, _, renderFrom_cons_of_free free, ?_⟩
      rw [codeStep, free] at found
      rw [← found, codeStep, again]
      by_cases leaves : leavesCode c = true
      · rcases leavesCode_cases leaves with ⟨quote, rfl⟩ | rfl
        · have mark : Text.isWordSide (some quote.mark) = false := quote.isWordChar_mark
          rw [renames.renderFrom_eq_mapWords (.inl mark)]
          simp only [plainStep_mark]
          exact renames.openingStep_follows quote rest
        · have mark : Text.isWordSide (some '#') = false := by decide
          rw [renames.renderFrom_eq_mapWords (.inl mark)]
          exact renames.stepFollows_of_sign oneLine
      · have stays := Bool.eq_false_iff.2 leaves
        have kept : StepFollows words image c rest (plainStep c rest) c
            (renderFrom words image (some c) rest) (plainStep c rest) :=
          renames.stepFollows_of_kept free stays
        simp only [renames.plainStep_renderFrom free stays]
        exact kept

/-! ## One token after the other -/

/-- In every mode the next token is found again. -/
theorem Renaming.step_follows {mode : Mode} {before other : Option Char} {c : Char}
    {rest text : Text} (oneLine : '\n' ∉ rest)
    (follows : Follows words image before other mode (c :: rest) text) :
    ∃ d others, text = d :: others ∧
      StepFollows words image c rest (mode.step words before c rest) d others
        (mode.step words other d others) := by
  cases follows with
  | code sides => exact renames.codeStep_follows sides oneLine
  | string inside rewrites =>
      cases mode with
      | inLine quote => exact renames.inLineStep_follows oneLine rewrites
      | inTriple quote => exact renames.inTripleStep_follows oneLine rewrites
      | code => cases inside
      | blanks => cases inside

end

end KeywordBridge
