import KeywordBridge.Keyword.Default
import KeywordBridge.Proofs.Token.Columns
import KeywordBridge.Proofs.Token.ProgramLines
import Mathlib.Data.List.Chain

/-!
# The tokens of a program make up its lines

Cutting a line into tokens loses nothing: the tokens follow each other column by
column from the first one on, none of them is empty, and together they are the
line. This holds in every mode and for every table, since each step of the scan
takes the characters of its token off the rest of the line. A program gives one
group of tokens for each of its lines, read in the mode that the lines above leave
behind.
-/

namespace KeywordBridge

namespace Lexeme

/-- Tokens of consecutive lexemes stand next to each other. -/
theorem isChain_place (line : Int) (column : Nat) (lexemes : List Lexeme) :
    (place line column lexemes).IsChain fun first second =>
      second.column = first.endColumn := by
  induction lexemes generalizing column with
  | nil => exact .nil
  | cons lexeme others ih =>
      rw [place, List.isChain_cons]
      refine ⟨fun second first => ?_, ih _⟩
      cases others with
      | nil => cases first
      | cons next rest =>
          cases first
          rfl

theorem column_of_head?_place {line : Int} {column : Nat} {lexemes : List Lexeme}
    {token : Token} (first : (place line column lexemes).head? = some token) :
    token.column = column := by
  cases lexemes with
  | nil => cases first
  | cons lexeme others =>
      cases first
      rfl

theorem line_of_mem_place {line : Int} {column : Nat} {lexemes : List Lexeme} {token : Token}
    (member : token ∈ place line column lexemes) : token.line = line := by
  induction lexemes generalizing column with
  | nil => cases member
  | cons lexeme others ih =>
      rcases List.mem_cons.1 member with rfl | later
      · rfl
      · exact ih later

theorem flatMap_value_place (line : Int) (column : Nat) (lexemes : List Lexeme) :
    (place line column lexemes).flatMap (·.value) = source lexemes :=
  flatMap_place (fun _ value => value) line column lexemes

end Lexeme

namespace Table

variable (table : Table)

/-! ## One line -/

theorem value_ne_nil_of_mem_tokenizeLine {mode : Mode} {number : Int} {line : Text}
    {token : Token} (member : token ∈ (table.tokenizeLine mode number line).1) :
    token.value ≠ [] :=
  value_ne_nil_of_mem_scanFrom table.surfaces mode none line _ (Lexeme.mem_of_mem_place member)

theorem flatMap_value_tokenizeLine (mode : Mode) (number : Int) (line : Text) :
    (table.tokenizeLine mode number line).1.flatMap (·.value) = line := by
  rw [tokenizeLine, Lexeme.flatMap_value_place]
  exact source_scanFrom table.surfaces mode none line

/-! ## The lines of a program -/

/-- Reading for tokens alone gives the tokens of the lines that are read. -/
theorem tokenizeFrom_eq_flatten (number : Nat) (mode : Mode) (lines : List Text) :
    table.tokenizeFrom number mode lines =
      ((table.readFrom number mode lines).map SourceLine.tokens).flatten := by
  induction lines generalizing number mode with
  | nil => rfl
  | cons line rest ih =>
      rw [tokenizeFrom, readFrom, List.map_cons, List.flatten_cons, ← ih]
      rfl

theorem tokenize_eq_flatten (program : Text) :
    table.tokenize program = (table.tokenizeLines program).flatten := by
  rw [tokenize, tokenizeLines, read, ← tokenizeFrom_eq_flatten]
  split
  · rename_i empty
    have noTokens : (table.tokenizeLine .code 1 []).1 = [] := by
      simp only [tokenizeLine, scanLine, scanFrom, Lexeme.place]
    rw [List.isEmpty_iff.1 empty]
    change [] = (table.tokenizeLine .code 1 []).1 ++ []
    rw [noTokens, List.append_nil]
  · rfl

theorem tokenizeFrom_append (number : Nat) (mode : Mode) (first second : List Text) :
    table.tokenizeFrom number mode (first ++ second) =
      table.tokenizeFrom number mode first ++
        table.tokenizeFrom (number + first.length) (table.modeAfter mode first) second := by
  simp only [tokenizeFrom_eq_flatten]
  rw [readFrom_append, List.map_append, List.flatten_append]

/-- The tokens of consecutive lines bear the numbers of these lines. -/
theorem line_of_mem_tokenizeFrom {number : Nat} {mode : Mode} {lines : List Text} {token : Token}
    (member : token ∈ table.tokenizeFrom number mode lines) :
    (number : Int) ≤ token.line ∧ token.line < (number + lines.length : Nat) := by
  rw [tokenizeFrom_eq_flatten] at member
  obtain ⟨group, isGroup, inside⟩ := List.mem_flatten.1 member
  obtain ⟨line, isLine, rfl⟩ := List.mem_map.1 isGroup
  obtain ⟨first, last⟩ := table.number_of_mem_readFrom isLine
  rw [Lexeme.line_of_mem_place inside]
  exact ⟨Int.ofNat_le.2 first, Int.ofNat_lt.2 last⟩

theorem length_tokenizeLines (program : Text) :
    (table.tokenizeLines program).length = program.lines.length := by
  rw [tokenizeLines, List.length_map, read, length_readFrom]

/-- The tokens of a line of a program are those of the line by itself, read in the
mode behind the lines above. -/
theorem getElem?_tokenizeLines (program : Text) (index : Nat) :
    (table.tokenizeLines program)[index]? =
      program.lines[index]?.map fun line =>
        (table.tokenizeLine (table.modeAfter .code (program.lines.take index)) (index + 1 : Nat)
          line.dropReturns).1 := by
  rw [tokenizeLines, List.getElem?_map, read, getElem?_readFrom, Option.map_map, Nat.add_comm]
  rfl

/-- The tokens of a line are non-empty, stand next to each other from the first
column on and make up the line. Those of a program are the tokens of its lines,
which are numbered from one and read without the returns at their ends. -/
theorem tokens_lossless (mode : Mode) (number : Int) (line program : Text) :
    let tokens := (table.tokenizeLine mode number line).1
    (∀ token ∈ tokens, token.value ≠ [] ∧ token.line = number) ∧
      (∀ token, tokens.head? = some token → token.column = 1) ∧
      tokens.IsChain (fun first second => second.column = first.endColumn) ∧
      tokens.flatMap (·.value) = line ∧
      (table.tokenizeLines program).length = program.lines.length ∧
      (∀ index text group, program.lines[index]? = some text →
        (table.tokenizeLines program)[index]? = some group →
        (∀ token ∈ group, token.line = ((index + 1 : Nat) : Int)) ∧
          group.flatMap (·.value) = text.dropReturns) ∧
      table.tokenize program = (table.tokenizeLines program).flatten := by
  refine ⟨fun token member => ⟨table.value_ne_nil_of_mem_tokenizeLine member,
      Lexeme.line_of_mem_place member⟩,
    fun token first => Lexeme.column_of_head?_place first, Lexeme.isChain_place number 1 _,
    table.flatMap_value_tokenizeLine mode number line, table.length_tokenizeLines program,
    fun index text group isLine isGroup => ?_, table.tokenize_eq_flatten program⟩
  rw [getElem?_tokenizeLines, isLine, Option.map_some, Option.some_inj] at isGroup
  subst isGroup
  exact ⟨fun token member => Lexeme.line_of_mem_place member,
    table.flatMap_value_tokenizeLine _ _ _⟩

/-- A line that closes a string behind an escape, in a program whose first line ends with
two returns. -/
theorem tokens_lossless_returns :
    let line : Text := "\\\"\"\"\"nge\r"
    let program : Text := "ngu\r\r\n#"
    let tokens := (default.tokenizeLine (.inTriple .double) 7 line).1
    (∃ token ∈ tokens, token.kind = .keyword ∧ token.value ≠ [] ∧ token.line = 7) ∧
      (∃ token, tokens.head? = some token ∧ token.column = 1) ∧
      tokens.flatMap (·.value) = line ∧
      ∃ group : List Token, (default.tokenizeLines program)[0]? = some group ∧
        (∀ token ∈ group, token.line = 1) ∧ group.flatMap (·.value) = ("ngu" : Text) := by
  intro line program tokens
  obtain ⟨each, first, -, whole, length, groups, -⟩ :=
    default.tokens_lossless (.inTriple .double) 7 line program
  have member : ⟨.keyword, "nge", 7, 6⟩ ∈ tokens := by decide +kernel
  have head : tokens.head? = some ⟨.escape, "\\\"", 7, 1⟩ := by decide +kernel
  have isLine : program.lines[0]? = some ("ngu\r\r" : Text) := by decide +kernel
  have inside : 0 < (default.tokenizeLines program).length := by
    rw [length]
    exact List.length_pos_of_mem (List.mem_of_getElem? isLine)
  have isGroup := List.getElem?_eq_getElem inside
  obtain ⟨numbered, source⟩ := groups 0 _ _ isLine isGroup
  have dropped : Text.dropReturns "ngu\r\r" = ("ngu" : Text) := by decide +kernel
  rw [dropped] at source
  exact ⟨⟨_, member, rfl, each _ member⟩, ⟨_, head, first _ head⟩, whole,
    ⟨_, isGroup, numbered, source⟩⟩

end Table

end KeywordBridge
