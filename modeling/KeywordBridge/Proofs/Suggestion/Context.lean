import KeywordBridge.Proofs.Keyword.WordKeywords
import KeywordBridge.Proofs.Suggestion.Ranking
import KeywordBridge.Proofs.Text.Lines
import KeywordBridge.Proofs.Token.CutLines

/-!
# Completions stay out of strings and comments

Whether a cursor stands in a string or a comment is guessed from the line in front of
it, where closed strings look open and escapes are cut in half. The guess agrees with
the tokens of the whole program: it is right at every place but between the three
quotes that open a string. Two of them in front of the cursor look like a string
without characters, and nothing is hidden behind it.
-/

namespace KeywordBridge

/-! ## The place of a cursor -/

namespace Place

/-- The number of the line on which a place lies. -/
def line (place : Place) : Int :=
  (place.above.length + 1 : Nat)

/-- The column in front of which a place lies. -/
def column (place : Place) : Nat :=
  place.before.length + 1

/-- Do the tokens of a program put the place into a string or a comment? Either a comment
or a broken string starts in front of it on its line, or a string encloses it. -/
def IsHidden (tokens : List Token) (place : Place) : Prop :=
  (∃ token ∈ tokens, token.line = place.line ∧
      (token.kind = .comment ∨ token.kind = .brokenString) ∧ token.column < place.column) ∨
    ∃ literal ∈ StringLiteral.among none tokens, literal.Encloses place.line place.column

/-- Does the place lie in none of the triple quotes that open a string? -/
def IsApart (tokens : List Token) (place : Place) : Prop :=
  ∀ literal ∈ StringLiteral.among none tokens, literal.opening.value.length = 3 →
    ¬ literal.opening.IsCutAt place.line place.column

instance (tokens : List Token) (place : Place) : Decidable (place.IsHidden tokens) :=
  inferInstanceAs (Decidable (_ ∨ _))

instance (tokens : List Token) (place : Place) : Decidable (place.IsApart tokens) :=
  inferInstanceAs (Decidable (∀ literal ∈ StringLiteral.among none tokens, _ → ¬ _))

theorem clampToOne_le (value : Int) (upper : Nat) : clampToOne value upper ≤ upper :=
  Nat.min_le_right _ _

theorem clampToOne_pos {upper : Nat} (positive : 0 < upper) (value : Int) :
    0 < clampToOne value upper := by
  unfold clampToOne
  omega

/-- The place of a cursor cuts one of the lines of the program. -/
theorem exists_cut_ofCursor (program : Text) (cursor : Option (Int × Int)) :
    ∃ line below cut, program.lines = (ofCursor program cursor).above ++ line :: below ∧
      cut ≤ line.dropReturns.length ∧
      (ofCursor program cursor).before = line.dropReturns.take cut := by
  have nonempty := Text.lines_ne_nil program
  cases cursor with
  | none =>
      refine ⟨program.lines.getLast nonempty, [], _, ?_, Nat.le_refl _, ?_⟩
      · exact (List.dropLast_append_getLast nonempty).symm
      · rw [List.take_length, ofCursor, List.getLastD_eq_getLast?,
          List.getLast?_eq_some_getLast nonempty, Option.getD_some]
  | some cursor =>
      obtain ⟨line, column⟩ := cursor
      have inside : clampToOne line program.lines.length - 1 < program.lines.length := by
        have positive := clampToOne_pos (List.length_pos_iff.2 nonempty) line
        have bounded := clampToOne_le line program.lines.length
        omega
      have found : program.lines.getD (clampToOne line program.lines.length - 1) [] =
          program.lines[clampToOne line program.lines.length - 1] := by
        rw [List.getD_eq_getElem?_getD, List.getElem?_eq_getElem inside, Option.getD_some]
      refine ⟨program.lines.getD (clampToOne line program.lines.length - 1) [],
        program.lines.drop (clampToOne line program.lines.length - 1 + 1), _, ?_, ?_, rfl⟩
      · rw [found, List.getElem_cons_drop]
        exact (List.take_append_drop _ _).symm
      · exact Nat.sub_le_of_le_add (clampToOne_le column _)

end Place

/-! ## What the line in front of a place tells -/

theorem TokenKind.endsLine_eq (kind : TokenKind) :
    kind.endsLine = (kind == .comment || kind == .brokenString) := by
  cases kind <;> rfl

namespace Table

variable {table : Table}

/-- A place is taken for one in a string or a comment if the reading of the line in front
of it arrives there. -/
theorem HasWordKeywords.isQuiet_iff (words : table.HasWordKeywords) {place : Place}
    (start : (table.modeAfter .code place.above).StartsLine) (oneLine : '\n' ∉ place.before) :
    table.isQuiet place = true ↔
      ((Zone.ofMode (table.modeAfter .code place.above)).scan 0 place.before).2 ≠ .code := by
  have agrees := words.lineAgrees start oneLine
  have ends := agrees.ends
  simp only [TokenKind.endsLine_eq] at ends
  have quiet : table.isQuiet place =
      ((table.scanLine (table.modeAfter .code place.above) place.before).2 != .code ||
        (table.scanLine (table.modeAfter .code place.above) place.before).1.getLast?.any
          fun last => last.kind == .comment || last.kind == .brokenString) := rfl
  rw [quiet, Bool.or_eq_true, ends, bne_iff_ne, agrees.mode]
  constructor
  · rintro (triple | ⟨leaves, -⟩)
    · intro code
      rw [code] at triple
      exact triple rfl
    · exact leaves
  · intro leaves
    by_cases code : ((Zone.ofMode (table.modeAfter .code place.above)).scan 0
        place.before).2.nextMode = .code
    · exact .inr ⟨leaves, code⟩
    · exact .inl code

end Table

/-! ## What the tokens of the program tell -/

/-- The tokens of a program above, on and below a line. -/
structure TokensAround (line : Int) (tokens above here below : List Token) : Prop where
  split : tokens = above ++ here ++ below
  isAbove : ∀ token ∈ above, token.line < line
  isHere : ∀ token ∈ here, token.line = line
  isBelow : ∀ token ∈ below, line < token.line

namespace TokensAround

variable {line : Int} {column : Nat} {tokens above here below : List Token}

theorem mem_here_iff (around : TokensAround line tokens above here below) {token : Token} :
    token ∈ here ↔ token ∈ tokens ∧ token.line = line := by
  rw [around.split, List.mem_append, List.mem_append]
  constructor
  · intro member
    exact ⟨.inl (.inr member), around.isHere token member⟩
  · rintro ⟨(isAbove | isHere) | isBelow, same⟩
    · exact absurd same (Int.ne_of_lt (around.isAbove token isAbove))
    · exact isHere
    · exact absurd same (Int.ne_of_gt (around.isBelow token isBelow))

/-- A place that lies in no triple quote of the program lies in none of its line. -/
theorem openingsApart (around : TokensAround line tokens above here below)
    (apart : ∀ literal ∈ StringLiteral.among none tokens, literal.opening.value.length = 3 →
      ¬ literal.opening.IsCutAt line column) :
    Token.OpeningsApart (above.foldl Token.openedBehind none) here column := by
  intro front token back isSplit unopened string length cutAt
  have whole : tokens = (above ++ front) ++ token :: (back ++ below) := by
    rw [around.split, isSplit, List.append_assoc, List.append_assoc, List.append_assoc,
      List.cons_append]
  have sameLine : token.line = line := by
    apply around.isHere
    rw [isSplit]
    exact List.mem_append_right _ List.mem_cons_self
  rw [← List.foldl_append] at unopened
  obtain ⟨literal, member, rfl⟩ := StringLiteral.exists_opening_of_split unopened string
  rw [← whole] at member
  exact apart literal member length ⟨sameLine, cutAt⟩

/-- The zone in which the line is cut off tells whether the tokens of the program put the
place of the cut into a string or a comment. -/
theorem zone_ne_code_iff (around : TokensAround line tokens above here below) {zone : Zone}
    {ended ahead : List Token}
    (agrees : CutLineAgrees (above.foldl Token.openedBehind none) here column zone ended ahead) :
    zone ≠ .code ↔
      (∃ token ∈ tokens, token.line = line ∧
          (token.kind = .comment ∨ token.kind = .brokenString) ∧ token.column < column) ∨
        ∃ literal ∈ StringLiteral.among none tokens, literal.Encloses line column := by
  have onLine : ∀ token ∈ ended ++ ahead, token.line = line := by
    rw [← agrees.split]
    exact around.isHere
  have inFront : ∀ token ∈ above ++ ended, token.EndsBy line column := by
    intro token member
    rcases List.mem_append.1 member with isAbove | isEnded
    · exact .inl (around.isAbove token isAbove)
    · exact .inr ⟨onLine token (List.mem_append_left _ isEnded), agrees.inFront token isEnded⟩
  have behind : ∀ token ∈ ahead ++ below, ¬ token.EndsBy line column := by
    rintro token member (earlier | ⟨same, ends⟩)
    · rcases List.mem_append.1 member with isAhead | isBelow
      · exact absurd (onLine token (List.mem_append_right _ isAhead)) (Int.ne_of_lt earlier)
      · exact absurd (around.isBelow token isBelow) (Int.lt_asymm earlier)
    · rcases List.mem_append.1 member with isAhead | isBelow
      · exact absurd ends (Nat.not_le_of_lt (agrees.behind token isAhead))
      · exact absurd same (Int.ne_of_gt (around.isBelow token isBelow))
  have whole : tokens = (above ++ ended) ++ (ahead ++ below) := by
    rw [around.split, agrees.split, List.append_assoc, List.append_assoc, List.append_assoc]
  have nothingOpen : ∀ opening ∈ (none : Option Token), opening.EndsBy line column :=
    fun opening opens => by cases opens
  have encloses := StringLiteral.exists_encloses_iff inFront behind nothingOpen
  rw [← whole, List.foldl_append] at encloses
  rw [agrees.quiet, ← encloses, or_comm]
  apply or_congr_left
  constructor
  · rintro ⟨token, member, ends, starts⟩
    obtain ⟨listed, same⟩ := around.mem_here_iff.1 member
    refine ⟨token, listed, same, ?_, starts⟩
    simpa [TokenKind.endsLine_eq] using ends
  · rintro ⟨token, listed, same, kind, starts⟩
    refine ⟨token, around.mem_here_iff.2 ⟨listed, same⟩, ?_, starts⟩
    simpa [TokenKind.endsLine_eq] using kind

end TokensAround

namespace Table

variable {table : Table}

/-- The tokens of a program around one of its lines. -/
theorem exists_tokensAround (table : Table) {program : Text} {above below : List Text}
    {line : Text} (split : program.lines = above ++ line :: below) :
    ∃ tokensBelow, TokensAround (above.length + 1 : Nat) (table.tokenize program)
      (table.tokenizeFrom 1 .code above)
      (table.tokenizeLine (table.modeAfter .code above) (above.length + 1 : Nat)
        line.dropReturns).1 tokensBelow := by
  have whole : table.tokenize program = table.tokenizeFrom 1 .code program.lines := by
    rw [tokenize_eq_flatten, tokenizeLines, read, ← tokenizeFrom_eq_flatten]
  rw [split, tokenizeFrom_append, Nat.add_comm 1, tokenizeFrom, ← List.append_assoc] at whole
  refine ⟨_, whole, ?_, ?_, ?_⟩
  · intro token member
    have last := (table.line_of_mem_tokenizeFrom member).2
    rwa [Nat.add_comm] at last
  · intro token member
    exact Lexeme.line_of_mem_place member
  · intro token member
    have first := (table.line_of_mem_tokenizeFrom member).1
    exact Int.lt_of_lt_of_le (Int.ofNat_lt.2 (Nat.lt_succ_self _)) first

/-- Outside the triple quotes that open strings, a place is taken for one in a string or
a comment exactly if the tokens of the program put it there. -/
theorem HasWordKeywords.isQuiet_iff_isHidden (words : table.HasWordKeywords) {program : Text}
    {cursor : Option (Int × Int)}
    (apart : (Place.ofCursor program cursor).IsApart (table.tokenize program)) :
    table.isQuiet (Place.ofCursor program cursor) = true ↔
      (Place.ofCursor program cursor).IsHidden (table.tokenize program) := by
  obtain ⟨line, below, cut, split, inside, before⟩ := Place.exists_cut_ofCursor program cursor
  generalize Place.ofCursor program cursor = place at *
  have oneLine : ∀ text ∈ program.lines, '\n' ∉ text.dropReturns :=
    fun text member => Text.newline_not_mem_dropReturns member
  rw [split, List.forall_mem_append, List.forall_mem_cons] at oneLine
  obtain ⟨oneLineAbove, oneLineHere, -⟩ := oneLine
  have oneLineBefore : '\n' ∉ place.before := by
    rw [before]
    exact fun member => oneLineHere (List.mem_of_mem_take member)
  have start := words.startsLine_modeAfter (.inl rfl) oneLineAbove
  have opens : (table.modeAfter .code place.above).IsOpenedBy
      ((table.tokenizeFrom 1 .code place.above).foldl Token.openedBehind none) :=
    words.isOpenedBy_modeAfter (.inl rfl) oneLineAbove rfl
  have column : place.column = 1 + cut := by
    rw [Place.column, before, List.length_take, Nat.min_eq_left inside, Nat.add_comm]
  obtain ⟨tokensBelow, around⟩ := table.exists_tokensAround split
  rw [Place.IsApart, column] at apart
  obtain ⟨ended, ahead, agrees⟩ := exists_cutLineAgrees words.isWord_of_mem_surfaces
    (table.modeAfter .code place.above) none line.dropReturns oneLineHere start.ne_blanks
    start.closes opens inside (around.openingsApart apart)
  rw [words.isQuiet_iff start oneLineBefore, before, Place.IsHidden, column]
  exact around.zone_ne_code_iff agrees

/-- A large enough limit leaves out no suggestion that goes on as the name has been
typed. -/
theorem mem_complete {table : Table} {limit : Int} {program : Text}
    {cursor : Option (Int × Int)} {suggestion : Suggestion}
    (visible : table.isQuiet (Place.ofCursor program cursor) = false)
    (listed : suggestion ∈ table.allSuggestions program)
    (goesOn : (foldCase (Place.ofCursor program cursor).typed).isPrefixOf
      (foldCase suggestion.label) = true)
    (large : (table.allSuggestions program).length ≤ limit) :
    suggestion ∈ table.complete limit program cursor := by
  rw [complete_eq_ranked visible large]
  exact List.mem_mergeSort.2 (List.mem_filter.2 ⟨listed, goesOn⟩)

/-- For the keywords of the project, every program and every cursor that stands in none
of the triple quotes which open strings: the cursor is taken to be in a string or a
comment exactly if the tokens of the whole program put it there. Then nothing is
suggested, and else everything that the fixed suggestions and the names of the program
offer for what has been typed. -/
theorem completion_context {program : Text} {cursor : Option (Int × Int)}
    (apart : (Place.ofCursor program cursor).IsApart (default.tokenize program)) :
    let place := Place.ofCursor program cursor
    (default.isQuiet place = true ↔ place.IsHidden (default.tokenize program)) ∧
      (place.IsHidden (default.tokenize program) →
        ∀ limit, default.complete limit program cursor = []) ∧
      (¬ place.IsHidden (default.tokenize program) →
        ∀ suggestion ∈ default.allSuggestions program,
          (foldCase place.typed).isPrefixOf (foldCase suggestion.label) = true →
          ∀ limit : Int, (default.allSuggestions program).length ≤ limit →
            suggestion ∈ default.complete limit program cursor) := by
  have quiet := default_hasWordKeywords.isQuiet_iff_isHidden apart
  refine ⟨quiet, ?_, ?_⟩
  · intro hidden limit
    rw [complete, quiet.2 hidden]
    rfl
  · intro shown suggestion listed goesOn limit large
    have visible : default.isQuiet (Place.ofCursor program cursor) = false := by
      rw [Bool.eq_false_iff]
      exact fun isQuiet => shown (quiet.1 isQuiet)
    exact mem_complete visible listed goesOn large

/-- A cursor between the three quotes that end a string, on a line that looks like a
comment in front of it, and a cursor behind them. -/
theorem completion_context_closing :
    let program : Text := "x = \"\"\"\\\"\n# \"\"\" ch"
    let closing := Place.ofCursor program (some (2, 5))
    let behind := Place.ofCursor program (some (2, 9))
    (closing.IsApart (default.tokenize program) ∧ closing.IsHidden (default.tokenize program) ∧
        default.complete defaultLimit program (some (2, 5)) = []) ∧
      behind.IsApart (default.tokenize program) ∧ ¬ behind.IsHidden (default.tokenize program) ∧
        default.isQuiet behind = false := by
  intro program closing behind
  have apart : closing.IsApart (default.tokenize program) := by decide +kernel
  have hidden : closing.IsHidden (default.tokenize program) := by decide +kernel
  have apartBehind : behind.IsApart (default.tokenize program) := by decide +kernel
  have shown : ¬ behind.IsHidden (default.tokenize program) := by decide +kernel
  refine ⟨⟨apart, hidden, (completion_context apart).2.1 hidden _⟩, apartBehind, shown, ?_⟩
  rw [Bool.eq_false_iff]
  exact fun isQuiet => shown ((completion_context apartBehind).1.1 isQuiet)

end Table

end KeywordBridge
