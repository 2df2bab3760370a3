import KeywordBridge.Proofs.Token.CheckedTokens

/-!
# The tokens of an indented line

The token that starts with a space is made up of blanks in code and of the plain part of
a string inside one. Spaces in front of a line join such a token if the line starts with
it, and are a token of their own otherwise. The tokens behind it stay the same further to
the right, as the spaces end no word and no string.
-/

namespace KeywordBridge

/-- The text behind some spaces. -/
def Text.indent (width : Nat) (text : Text) : Text :=
  List.replicate width ' ' ++ text

/-- The same token some columns to the right. -/
def Token.moveRight (width : Nat) (token : Token) : Token :=
  { token with column := token.column + width }

theorem Lexeme.place_add (line : Int) (column width : Nat) (lexemes : List Lexeme) :
    place line (column + width) lexemes =
      (place line column lexemes).map (Token.moveRight width) := by
  induction lexemes generalizing column with
  | nil => rfl
  | cons lexeme others ih =>
      rw [place, place, List.map_cons, Nat.add_right_comm, ih]
      rfl

theorem Lexeme.checked_add (line : Int) (column width : Nat) (lexemes : List Lexeme) :
    checked line (column + width) lexemes =
      (checked line column lexemes).map (Token.moveRight width) := by
  rw [checked, place_add, List.filter_map]
  rfl

namespace Mode

/-- The characters that make up one token with a space in front of them. -/
def joinsSpace : Mode → Char → Bool
  | code | blanks => separates
  | inLine quote | inTriple quote => isPlainIn quote

/-- What a token that starts with a space is. -/
def spaceKind : Mode → TokenKind
  | code | blanks => .white
  | inLine _ | inTriple _ => .string

variable (mode : Mode)

theorem joinsSpace_space : mode.joinsSpace ' ' = true := by
  cases mode with
  | code | blanks => decide
  | inLine quote | inTriple quote => cases quote <;> decide

theorem spaceKind_ne_comment : mode.spaceKind ≠ .comment := by
  cases mode <;> exact TokenKind.noConfusion

theorem isChecked_spaceKind : mode.spaceKind.isChecked = false := by
  cases mode <;> rfl

theorem takeWhile_joinsSpace_indent (width : Nat) (text : Text) :
    (text.indent width).takeWhile mode.joinsSpace =
      Text.indent width (text.takeWhile mode.joinsSpace) := by
  apply List.takeWhile_append_of_pos
  intro c member
  rw [List.eq_of_mem_replicate member, mode.joinsSpace_space]

theorem dropWhile_joinsSpace_indent (width : Nat) (text : Text) :
    (text.indent width).dropWhile mode.joinsSpace = text.dropWhile mode.joinsSpace := by
  apply List.dropWhile_append_of_pos
  intro c member
  rw [List.eq_of_mem_replicate member, mode.joinsSpace_space]

end Mode

section

variable {words : List Text} (isWord : ∀ word ∈ words, word.IsWord)

include isWord

theorem step_of_joinsSpace {mode : Mode} (before : Option Char) {c : Char}
    (joins : mode.joinsSpace c = true) (rest : Text) :
    mode.step words before c rest =
      ⟨mode.spaceKind, Text.countWhile mode.joinsSpace rest, mode⟩ := by
  cases mode with
  | code =>
      exact (codeStep_of_mark isWord before (isWordChar_of_separates joins) rest).trans
        (plainStep_of_separates joins rest)
  | inLine quote => exact inLineStep_of_plain joins rest
  | inTriple quote => exact inTripleStep_of_plain joins rest
  | blanks =>
      change separates c = true at joins
      change blanksStep c rest = _
      rw [blanksStep, blankStep?, if_pos joins]
      rfl

/-- Behind such a token, the scan goes on as at the start of a line: in code the token
ends with no word character, and elsewhere the character in front does not matter. -/
theorem scanFrom_behind_joinsSpace {mode : Mode} {c : Char} (joins : mode.joinsSpace c = true)
    (text : Text) : scanFrom words mode (some c) text = scanFrom words mode none text := by
  cases text with
  | nil => rw [scanFrom, scanFrom]
  | cons d rest =>
      have same : mode.step words (some c) d rest = mode.step words none d rest := by
        cases mode with
        | code =>
            have sides : Text.isWordSide (some c) = Text.isWordSide none :=
              isWordChar_of_separates joins
            change codeStep words (some c) d rest = codeStep words none d rest
            rw [codeStep, codeStep, keywordAt?_of_isWord isWord, keywordAt?_of_isWord isWord,
              sides]
        | inLine | inTriple | blanks => rfl
      rw [scanFrom_cons, scanFrom_cons, same]

/-- The characters at the start of a line that a space would join are one token, if there
are any. -/
theorem exists_run_of_joinsSpace (mode : Mode) (text : Text) :
    ∃ run, Lexeme.source run = text.takeWhile mode.joinsSpace ∧
      (∀ lexeme ∈ run, lexeme.kind = mode.spaceKind) ∧
      let behind := scanFrom words mode none (text.dropWhile mode.joinsSpace)
      scanFrom words mode none text = (run ++ behind.1, behind.2) := by
  cases text with
  | nil => exact ⟨[], rfl, List.forall_mem_nil _, rfl⟩
  | cons c rest =>
      by_cases joins : mode.joinsSpace c = true
      · rw [List.takeWhile_cons_of_pos joins, List.dropWhile_cons_of_pos joins]
        refine ⟨[⟨mode.spaceKind, c :: rest.takeWhile mode.joinsSpace⟩],
          List.append_nil _, List.forall_mem_singleton.2 rfl, ?_⟩
        have last : (c :: rest.takeWhile mode.joinsSpace).getLast? =
            some ((c :: rest.takeWhile mode.joinsSpace).getLast (List.cons_ne_nil _ _)) :=
          List.getLast?_eq_some_getLast _
        -- What follows the run is scanned as at the start, since the run ends with a
        -- character that a space would join as well.
        have all : ∀ d ∈ c :: rest.takeWhile mode.joinsSpace, mode.joinsSpace d = true :=
          List.forall_mem_cons.2 ⟨joins, fun d member => List.mem_takeWhile_imp member⟩
        have joinsLast := all _ (List.mem_of_getLast? last)
        rw [scanFrom_cons, step_of_joinsSpace isWord none joins]
        simp only [take_countWhile, drop_countWhile]
        rw [last, scanFrom_behind_joinsSpace isWord joinsLast]
        rfl
      · rw [List.takeWhile_cons_of_neg joins, List.dropWhile_cons_of_neg joins]
        exact ⟨[], rfl, List.forall_mem_nil _, rfl⟩

/-- A line and the line behind some spaces differ in the token that they start with. -/
theorem exists_runs_indent (mode : Mode) (width : Nat) (text : Text) :
    ∃ run longer behind final, (∀ lexeme ∈ run ++ longer, lexeme.kind = mode.spaceKind) ∧
      Lexeme.source longer = (Lexeme.source run).indent width ∧
      scanFrom words mode none text = (run ++ behind, final) ∧
      scanFrom words mode none (text.indent width) = (longer ++ behind, final) := by
  obtain ⟨run, source, kinds, scanned⟩ := exists_run_of_joinsSpace isWord mode text
  obtain ⟨longer, sourceLonger, kindsLonger, scannedLonger⟩ :=
    exists_run_of_joinsSpace isWord mode (text.indent width)
  rw [mode.takeWhile_joinsSpace_indent, ← source] at sourceLonger
  rw [mode.dropWhile_joinsSpace_indent] at scannedLonger
  exact ⟨run, longer, _, _, List.forall_mem_append.2 ⟨kinds, kindsLonger⟩, sourceLonger, scanned,
    scannedLonger⟩

theorem checked_scanFrom_indent (mode : Mode) (line : Int) (width : Nat) (text : Text) :
    Lexeme.checked line 1 (scanFrom words mode none (text.indent width)).1 =
      (Lexeme.checked line 1 (scanFrom words mode none text).1).map (Token.moveRight width) := by
  obtain ⟨run, longer, behind, final, kinds, source, scanned, scannedLonger⟩ :=
    exists_runs_indent isWord mode width text
  have unchecked : ∀ lexeme ∈ run ++ longer, lexeme.kind.isChecked = false := by
    intro lexeme listed
    rw [kinds lexeme listed, mode.isChecked_spaceKind]
  rw [List.forall_mem_append] at unchecked
  have length : (Lexeme.source longer).length = (Lexeme.source run).length + width := by
    rw [source, Text.indent, List.length_append, List.length_replicate, Nat.add_comm]
  rw [scanned, scannedLonger, Lexeme.checked_append, Lexeme.checked_append,
    Lexeme.Unchecked.checked_eq unchecked.1, Lexeme.Unchecked.checked_eq unchecked.2, length,
    ← Nat.add_assoc, Lexeme.checked_add]
  rfl

/-- The part of a line outside its comment starts with the spaces. -/
theorem source_filter_scanFrom_indent (mode : Mode) (width : Nat) (text : Text) :
    Lexeme.source ((scanFrom words mode none (text.indent width)).1.filter (·.kind != .comment)) =
      Text.indent width
        (Lexeme.source ((scanFrom words mode none text).1.filter (·.kind != .comment))) := by
  obtain ⟨run, longer, behind, final, kinds, source, scanned, scannedLonger⟩ :=
    exists_runs_indent isWord mode width text
  have kept : ∀ lexeme ∈ run ++ longer, (lexeme.kind != .comment) = true := by
    intro lexeme listed
    rw [kinds lexeme listed, bne_iff_ne]
    exact mode.spaceKind_ne_comment
  rw [List.forall_mem_append] at kept
  rw [scanned, scannedLonger, List.filter_append, List.filter_append,
    List.filter_eq_self.2 kept.1, List.filter_eq_self.2 kept.2, Lexeme.source_append,
    Lexeme.source_append, source, Text.indent, Text.indent, List.append_assoc]

theorem mode_scanFrom_indent (mode : Mode) (width : Nat) (text : Text) :
    (scanFrom words mode none (text.indent width)).2 = (scanFrom words mode none text).2 := by
  obtain ⟨run, longer, behind, final, -, -, scanned, scannedLonger⟩ :=
    exists_runs_indent isWord mode width text
  rw [scanned, scannedLonger]

end

end KeywordBridge
