import KeywordBridge.Proofs.Text.Lines
import KeywordBridge.Proofs.Token.Columns
import KeywordBridge.Proofs.Token.QuoteAgreement
import KeywordBridge.Token.Source

/-!
# The strings and comments of a whole line

From the agreement of each token with the reading of its line follows that of the
lexemes of the line: they cover the regions that are read, the mode behind them
is the one that the reading leaves to the next line, and a broken string is among
them, as the last one, exactly when the reading ends in a string that has to end
on its line. Placing the lexemes on the line then tells for every column in which
region it lies.
-/

namespace KeywordBridge

/-- How the lexemes of a text and the mode behind them agree with its reading. -/
structure LineAgrees (lexemes : List Lexeme) (final : Mode) (reading : List Region × Zone) :
    Prop where
  regions : lexemes.flatMap Lexeme.regions = reading.1
  mode : final = reading.2.nextMode
  whole : reading.2.breaksString = false → ∀ lexeme ∈ lexemes, lexeme.kind ≠ .brokenString
  broken : reading.2.breaksString = true → ∃ earlier last, lexemes = earlier ++ [last] ∧
    last.kind = .brokenString ∧ last.value.isBlank = false ∧
      ∀ lexeme ∈ earlier, lexeme.kind ≠ .brokenString
  /-- The last lexeme tells whether the line ends in a comment or a broken string. -/
  ends : lexemes.getLast?.any (·.kind.endsLine) = true ↔
    reading.2 ≠ .code ∧ reading.2.nextMode = .code

/-- A single lexeme that ends its line. -/
theorem lineAgrees_singleton {lexeme : Lexeme} {zone : Zone}
    (endsLine : lexeme.kind.endsLine = true) (visible : lexeme.value.isBlank = false)
    (mode : zone.nextMode = .code) (leaves : zone ≠ .code)
    (kind : lexeme.kind = .brokenString ↔ zone.breaksString = true) :
    LineAgrees [lexeme] .code (lexeme.regions, zone) where
  regions := List.flatMap_singleton _ _
  mode := mode.symm
  whole unbroken other member := by
    rw [List.mem_singleton.1 member, ne_eq, kind, unbroken]
    exact Bool.false_ne_true
  broken breaks := ⟨[], lexeme, rfl, kind.2 breaks, visible, fun _ member => by cases member⟩
  ends := iff_of_true endsLine ⟨leaves, mode⟩

theorem TokenKind.ne_brokenString {kind : TokenKind} (goesOn : kind.endsLine = false) :
    kind ≠ .brokenString := by
  rintro rfl
  exact Bool.noConfusion goesOn

/-- A lexeme that does not end the line goes in front of what agrees. -/
theorem LineAgrees.cons {lexeme : Lexeme} {others : List Lexeme} {final : Mode}
    {reading : List Region × Zone} (goesOn : lexeme.kind.endsLine = false)
    (behind : LineAgrees others final reading) :
    LineAgrees (lexeme :: others) final (Zone.prepend lexeme.regions reading) where
  regions := by rw [List.flatMap_cons, behind.regions, Zone.prepend]
  mode := behind.mode
  whole unbroken := List.forall_mem_cons.2 ⟨TokenKind.ne_brokenString goesOn, behind.whole unbroken⟩
  broken breaks := by
    obtain ⟨earlier, last, split, kind, visible, unbroken⟩ := behind.broken breaks
    refine ⟨lexeme :: earlier, last, ?_, kind, visible,
      List.forall_mem_cons.2 ⟨TokenKind.ne_brokenString goesOn, unbroken⟩⟩
    rw [split, List.cons_append]
  ends := by
    have same : (lexeme :: others).getLast?.any (·.kind.endsLine) =
        others.getLast?.any (·.kind.endsLine) := by
      cases others with
      | nil => exact goesOn
      | cons next rest => rw [List.getLast?_cons_cons]
    rw [same]
    exact behind.ends

/-- Where no text is left, the mode is that of code or of a string that goes on
in the next line. -/
theorem lineAgrees_nil {mode : Mode} (known : mode ≠ .blanks)
    (closes : ∀ quote, mode = .inLine quote → staysOpen quote [] = false) :
    LineAgrees [] mode ([], Zone.ofMode mode) := by
  have noQuote : ∀ quote, mode ≠ .inLine quote := by
    intro quote same
    exact Bool.noConfusion (closes quote same)
  cases mode with
  | blanks => exact absurd rfl known
  | inLine quote => exact absurd rfl (noQuote quote)
  | code =>
      exact ⟨rfl, rfl, by simp, by simp [Zone.ofMode, Zone.breaksString], by simp [Zone.ofMode]⟩
  | inTriple quote =>
      exact ⟨rfl, rfl, by simp, by simp [Zone.ofMode, Zone.breaksString],
        by simp [Zone.ofMode, Zone.nextMode]⟩

/-- The lexemes of a text agree with its reading. -/
theorem lineAgrees_scanFrom {words : List Text} (isWord : ∀ word ∈ words, word.IsWord)
    (mode : Mode) (before : Option Char) (text : Text) (oneLine : '\n' ∉ text)
    (known : mode ≠ .blanks)
    (closes : ∀ quote, mode = .inLine quote → staysOpen quote text = false) :
    LineAgrees (scanFrom words mode before text).1 (scanFrom words mode before text).2
      ((Zone.ofMode mode).scan 0 text) := by
  fun_induction scanFrom words mode before text with
  | case1 mode before => exact lineAgrees_nil known closes
  | case2 mode before c rest step value others final scanned ih =>
      rw [List.mem_cons, not_or] at oneLine
      have behind : '\n' ∉ rest.drop step.extra := fun member =>
        oneLine.2 (List.mem_of_mem_drop member)
      have agrees : TokenAgrees (Zone.ofMode mode) c rest step :=
        tokenAgrees_step isWord before oneLine.2 known closes
      cases agrees with
      | onward goesOn known closes reads =>
          have reads := reads _ List.prefix_rfl
          rw [List.cons_append, List.take_append_drop] at reads
          rw [scanned] at ih
          rw [reads]
          exact (ih behind known closes).cons goesOn
      | final last endsLine visible code next leaves breaks ends reads =>
          rw [ends, code, scanFrom] at scanned
          cases scanned
          rw [reads]
          have visible : Text.isBlank value = false := by
            rw [Text.isBlank, List.all_cons, visible, Bool.false_and]
          exact lineAgrees_singleton endsLine visible next leaves breaks

/-! ## Lines of a program -/

/-- No string that has to end on its line is open where a line starts. -/
theorem Mode.StartsLine.closes {mode : Mode} (start : mode.StartsLine) {text : Text}
    (quote : Quote) (inside : mode = .inLine quote) : staysOpen quote text = false := by
  rcases start with rfl | ⟨other, rfl⟩
  · exact Mode.noConfusion inside
  · exact Mode.noConfusion inside

theorem afterLine_nextMode (zone : Zone) : zone.nextMode.afterLine = zone.nextMode := by
  cases zone <;> rfl

/-- Behind a whole line, the mode of the scan is that of the next line. -/
theorem Table.HasWordKeywords.scanLine_eq {table : Table} (words : table.HasWordKeywords)
    {mode : Mode} (start : mode.StartsLine) {line : Text} (oneLine : '\n' ∉ line) :
    table.scanLine mode line = scanFrom table.surfaces mode none line := by
  have agrees := lineAgrees_scanFrom words.isWord_of_mem_surfaces mode none line oneLine
    start.ne_blanks start.closes
  have next := afterLine_nextMode ((Zone.ofMode mode).scan 0 line).2
  rw [← agrees.mode] at next
  exact Prod.ext rfl next

theorem Table.HasWordKeywords.lineAgrees {table : Table} (words : table.HasWordKeywords)
    {mode : Mode} (start : mode.StartsLine) {line : Text} (oneLine : '\n' ∉ line) :
    LineAgrees (table.scanLine mode line).1 (table.scanLine mode line).2
      ((Zone.ofMode mode).scan 0 line) := by
  rw [words.scanLine_eq start oneLine]
  exact lineAgrees_scanFrom words.isWord_of_mem_surfaces mode none line oneLine
    start.ne_blanks start.closes

/-- A line leaves to the next line a mode in which a line may start. -/
theorem Table.HasWordKeywords.startsLine_scanLine {table : Table}
    (words : table.HasWordKeywords) {mode : Mode} (start : mode.StartsLine) {line : Text}
    (oneLine : '\n' ∉ line) : (table.scanLine mode line).2.StartsLine := by
  rw [(words.lineAgrees start oneLine).mode]
  exact Zone.startsLine_nextMode _

/-- Consecutive lines leave such a mode behind as well. -/
theorem Table.HasWordKeywords.startsLine_modeAfter {table : Table}
    (words : table.HasWordKeywords) {mode : Mode} (start : mode.StartsLine) {lines : List Text}
    (oneLine : ∀ line ∈ lines, '\n' ∉ line.dropReturns) :
    (table.modeAfter mode lines).StartsLine := by
  induction lines generalizing mode with
  | nil => exact start
  | cons line rest ih =>
      rw [List.forall_mem_cons] at oneLine
      exact ih (words.startsLine_scanLine start oneLine.1) oneLine.2

/-- Every line of a program starts in such a mode. -/
theorem Table.HasWordKeywords.startsLine_take {table : Table} (words : table.HasWordKeywords)
    (program : Text) (count : Nat) :
    (table.modeAfter .code (program.lines.take count)).StartsLine :=
  words.startsLine_modeAfter (.inl rfl) fun _ member =>
    Text.newline_not_mem_dropReturns (List.mem_of_mem_take member)

/-- A line has one broken string or none. -/
theorem LineAgrees.countP_brokenString {lexemes : List Lexeme} {final : Mode}
    {reading : List Region × Zone} (agrees : LineAgrees lexemes final reading) :
    lexemes.countP (·.kind = .brokenString) = if reading.2.breaksString then 1 else 0 := by
  by_cases breaks : reading.2.breaksString = true
  · obtain ⟨earlier, last, rfl, kind, -, whole⟩ := agrees.broken breaks
    have none : earlier.countP (·.kind = .brokenString) = 0 := by
      rw [List.countP_eq_zero]
      intro lexeme member
      simpa using whole lexeme member
    rw [List.countP_append, none, if_pos breaks, List.countP_singleton,
      if_pos (by simpa using kind)]
  · rw [if_neg breaks, List.countP_eq_zero]
    intro lexeme member
    simpa using agrees.whole (Bool.eq_false_iff.2 breaks) lexeme member

/-! ## The tokens of the line -/

section

variable {lexemes : List Lexeme} {final : Mode} {reading : List Region × Zone}
  (agrees : LineAgrees lexemes final reading) (line : Int)

include agrees

theorem LineAgrees.covers_iff (region : Region) (index : Nat) :
    (∃ token ∈ Lexeme.place line 1 lexemes,
        token.Covers (index + 1) ∧ token.kind.region = region) ↔
      reading.1[index]? = some region := by
  have covered := Lexeme.exists_covers_place line 1 lexemes region index
  rw [agrees.regions, Nat.add_comm] at covered
  exact covered

theorem LineAgrees.exists_brokenString_iff :
    (∃ token ∈ Lexeme.place line 1 lexemes, token.kind = .brokenString) ↔
      reading.2.breaksString = true := by
  constructor
  · rintro ⟨token, member, kind⟩
    by_contra unbroken
    exact agrees.whole (Bool.eq_false_iff.2 unbroken) _ (Lexeme.mem_of_mem_place member) kind
  · intro breaks
    obtain ⟨earlier, last, split, kind, -, -⟩ := agrees.broken breaks
    rw [split, Lexeme.place_append]
    exact ⟨_, List.mem_append_right _ List.mem_cons_self, kind⟩

/-- A broken string is the last token of its line and the only one. -/
theorem LineAgrees.brokenString_last {token : Token}
    (member : token ∈ Lexeme.place line 1 lexemes) (kind : token.kind = .brokenString) :
    ∃ earlier, Lexeme.place line 1 lexemes = earlier ++ [token] ∧
      token.endColumn = (Lexeme.source lexemes).length + 1 ∧
      ∀ other ∈ earlier, other.kind ≠ .brokenString := by
  have breaks := (agrees.exists_brokenString_iff line).1 ⟨token, member, kind⟩
  obtain ⟨earlier, last, split, -, -, whole⟩ := agrees.broken breaks
  have wholeTokens : ∀ other ∈ Lexeme.place line 1 earlier, other.kind ≠ .brokenString :=
    fun other listed => whole _ (Lexeme.mem_of_mem_place listed)
  rw [split, Lexeme.place_append] at member ⊢
  rcases List.mem_append.1 member with early | late
  · exact absurd kind (wholeTokens token early)
  · rw [Lexeme.place, Lexeme.place, List.mem_singleton] at late
    subst late
    refine ⟨_, rfl, ?_, wholeTokens⟩
    simp only [Token.endColumn, Lexeme.source, List.flatMap_append, List.flatMap_singleton,
      List.length_append]
    omega

end

end KeywordBridge
